import BlockLang.Automaton.Basic
import BlockLang.Text.Quoted

/-! # Building automata

A `Builder` is an automaton under construction. States are numbered in the order in which they are
added; a transition is added once and keeps its target.

* `addState`, `setStart`, `addTransitions`, `build`: the four calls. A call that fails is told by a
  `BuildError`; `addTransitions` keeps what it added before the symbol at fault.
* `Call`, `after`: the calls as data, and the builder after some of them.

The message of an error writes out the number of a state whatever its length. The guard of the
runtime against writing integers of more than 4300 digits is left out. -/

namespace BlockLang

/-- What can go wrong while an automaton is built. -/
inductive BuildError
  | unknownState (state : Int)
  | foreignSymbol (symbol : String)
  | conflict (symbol : String) (source : Nat) (existing wanted : Nat)
  | noStart (name : String)
  deriving DecidableEq, Repr

/-- The wording of a build error. -/
def BuildError.message : BuildError → String
  | unknownState state => "unknown state " ++ toString state
  | foreignSymbol symbol => "symbol " ++ Text.quoted symbol ++ " is outside the automaton alphabet"
  | conflict symbol source existing wanted =>
      "non-deterministic transition on " ++ Text.quoted symbol ++ " from state " ++
        toString source ++ ": already goes to " ++ toString existing ++
        ", cannot also go to " ++ toString wanted
  | noStart name => "automaton '" ++ name ++ "' has no start state"

/-- A node with one more transition. -/
def Node.withTransition (node : Node) (s : Symbol) (target : Nat) : Node :=
  { node with next := fun s' => if s' = s then some target else node.next s' }

/-- An automaton under construction. -/
structure Builder where
  nodes : List Node := []
  start : Option Nat := none

namespace Builder

/-- Adds a state without transitions. Its number is the number of states before. -/
def addState (b : Builder) (accepting : Bool) : Builder :=
  { b with nodes := b.nodes ++ [⟨accepting, fun _ => none⟩] }

/-- The state that an integer names, if there is one. -/
def state? (b : Builder) (i : Int) : Option Nat :=
  if 0 ≤ i ∧ i < b.nodes.length then some i.toNat else none

/-- Makes a state the start state. -/
def setStart (b : Builder) (i : Int) : Builder × Option BuildError :=
  match b.state? i with
  | none => (b, some (.unknownState i))
  | some q => ({ b with start := some q }, none)

/-- Where a symbol leads from a state. -/
def target? (b : Builder) (source : Nat) (s : Symbol) : Option Nat :=
  (b.nodes[source]?).bind (·.next s)

/-- Sets one transition. -/
def setTransition (b : Builder) (source : Nat) (s : Symbol) (target : Nat) : Builder :=
  { b with nodes := b.nodes.modify source (·.withTransition s target) }

/-- Adds transitions between two states on some symbols, up to the first that is no symbol or
already leads elsewhere. -/
def addSymbols (b : Builder) (source target : Nat) : List String → Builder × Option BuildError
  | [] => (b, none)
  | text :: rest =>
    match Symbol.ofString? text with
    | none => (b, some (.foreignSymbol text))
    | some s =>
      match b.target? source s with
      | none => (b.setTransition source s target).addSymbols source target rest
      | some existing =>
        if existing = target then b.addSymbols source target rest
        else (b, some (.conflict text source existing target))

/-- Adds transitions on some symbols. The source is looked up first, then the target, then the
symbols are taken in order. -/
def addTransitions (b : Builder) (source : Int) (symbols : List String) (target : Int) :
    Builder × Option BuildError :=
  match b.state? source with
  | none => (b, some (.unknownState source))
  | some p =>
    match b.state? target with
    | none => (b, some (.unknownState target))
    | some q => b.addSymbols p q symbols

/-- The automaton as built so far. -/
def build (b : Builder) (name : String) : Except BuildError Automaton :=
  match b.start with
  | none => .error (.noStart name)
  | some q => .ok ⟨name, b.nodes, q⟩

/-- The calls that change a builder. -/
inductive Call
  | addState (accepting : Bool)
  | setStart (state : Int)
  | addTransitions (source : Int) (symbols : List String) (target : Int)
  deriving DecidableEq, Repr

/-- The builder after a call, and what went wrong in it. -/
def call (b : Builder) : Call → Builder × Option BuildError
  | .addState accepting => (b.addState accepting, none)
  | .setStart state => b.setStart state
  | .addTransitions source symbols target => b.addTransitions source symbols target

/-- The builder after some calls, the failed ones included. -/
def after (b : Builder) (calls : List Call) : Builder := calls.foldl (fun b c => (b.call c).1) b

end Builder

end BlockLang
