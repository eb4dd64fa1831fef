/-! # Deterministic automata over ASCII

A deterministic automaton whose states are the places in a list of nodes. A node says whether it
accepts and where each symbol leads; a symbol that leads nowhere stops the automaton, and so does
every character outside ASCII.

* `run?`: the state reached by a whole text.
* `longestMatch`: the length of the longest beginning of a text that ends in an accepting state.
* `accepts`: whether that is the whole of a non-empty text.
* `stepAt`: one step from a state given by any integer, on any text as symbol. -/

namespace BlockLang

/-- The input symbols: the ASCII characters by their codes. -/
abbrev Symbol := Fin 128

namespace Symbol

/-- The symbol that a character is, if it is an ASCII character. -/
def ofChar? (c : Char) : Option Symbol := if h : c.toNat < 128 then some ⟨c.toNat, h⟩ else none

/-- The symbol that a text is, if it is a single ASCII character. -/
def ofString? (text : String) : Option Symbol :=
  match text.toList with
  | [c] => ofChar? c
  | _ => none

/-- A symbol as a character. -/
def toChar (s : Symbol) : Char := Char.ofNat s.val

end Symbol

/-- A state: whether it accepts, and where its transitions lead. -/
structure Node where
  accepting : Bool
  next : Symbol → Option Nat

/-- A deterministic automaton. Its states are the numbers below `nodes.length`. -/
structure Automaton where
  name : String
  nodes : List Node
  start : Nat

namespace Automaton

/-- The number of states. -/
def stateCount (a : Automaton) : Nat := a.nodes.length

/-- Whether a number is an accepting state. -/
def isAccepting (a : Automaton) (q : Nat) : Bool := (a.nodes[q]?).any (·.accepting)

/-- The accepting states in increasing order. -/
def acceptingStates (a : Automaton) : List Nat := (List.range a.stateCount).filter a.isAccepting

/-- Where a character leads from a state. -/
def step? (a : Automaton) (q : Nat) (c : Char) : Option Nat := do
  let node ← a.nodes[q]?
  let s ← Symbol.ofChar? c
  node.next s

/-- The state that a text leads to from a given one, if every step is possible. -/
def run? (a : Automaton) : Nat → List Char → Option Nat
  | q, [] => some q
  | q, c :: cs => (a.step? q c).bind fun q' => a.run? q' cs

/-- The length of the longest non-empty beginning of a text that leads from a given state to an
accepting one; `0` if there is none. -/
def longestFrom (a : Automaton) : Nat → List Char → Nat
  | _, [] => 0
  | q, c :: cs =>
    match a.step? q c with
    | none => 0
    | some q' =>
      match a.longestFrom q' cs with
      | 0 => if a.isAccepting q' then 1 else 0
      | n + 1 => n + 2

/-- The length of the longest match at the beginning of a text. -/
def longestMatch (a : Automaton) (text : List Char) : Nat := a.longestFrom a.start text

/-- The length of the longest match at an offset into a text. A negative offset stands for `0`. -/
def longestMatchAt (a : Automaton) (text : List Char) (offset : Int) : Nat :=
  a.longestMatch (text.drop offset.toNat)

/-- Whether a text is accepted. The empty text never is. -/
def accepts (a : Automaton) (text : List Char) : Bool :=
  !text.isEmpty && a.longestMatch text == text.length

/-- The answers to the question where a symbol leads. -/
inductive StepAnswer
  | noSuchState
  | stuck
  | to (state : Nat)
  deriving DecidableEq, Repr

/-- The node that an integer names: from the first one on if it is not negative, and from the last
one back if it is. -/
def nodeAt? (a : Automaton) (i : Int) : Option Node :=
  if 0 ≤ i then a.nodes[i.toNat]? else a.nodes.reverse[(-i - 1).toNat]?

/-- Where a text, taken as one symbol, leads from a state. What is no symbol leads nowhere from any
state, allocated or not. -/
def stepAt (a : Automaton) (state : Int) (text : String) : StepAnswer :=
  match Symbol.ofString? text with
  | none => .stuck
  | some s =>
    match a.nodeAt? state with
    | none => .noSuchState
    | some node => (node.next s).elim .stuck .to

end Automaton

end BlockLang
