import BlockLang.Automaton.Basic
import BlockLang.Text.Capital
import BlockLang.Text.Quoted

/-! # Transition tables

An automaton written down.

* `transitions`: all transitions by source and symbol.
* `report`: the table as text. Transitions with the same source and target share a line, and the
  lines follow the first transition of each.
* `summary`: an automaton on one line. -/

namespace BlockLang

/-- A transition: its source, its symbol and its target. -/
structure Transition where
  source : Nat
  symbol : Symbol
  target : Nat
  deriving DecidableEq, Repr

namespace Automaton

/-- The transitions of a node with a given number, by symbol. -/
def transitionsOf (source : Nat) (node : Node) : List Transition :=
  (List.finRange 128).filterMap fun s => (node.next s).map fun target => ⟨source, s, target⟩

/-- The transitions by source and symbol. -/
def transitions (a : Automaton) : List Transition :=
  a.nodes.zipIdx.flatMap fun (node, source) => transitionsOf source node

/-- The pairs of a source and a target, in the order of their first transitions. -/
def edges (a : Automaton) : List (Nat × Nat) :=
  (a.transitions.map fun t => (t.source, t.target)).eraseDups

/-- The characters that lead from one state to another. -/
def edgeChars (a : Automaton) (source target : Nat) : List Char :=
  (a.transitions.filter fun t => t.source = source ∧ t.target = target).map (·.symbol.toChar)

/-- The name of a state in reports. -/
def stateName (q : Nat) : String := "q" ++ toString q

/-- The transitions from one state to another as one line of a report. -/
def edgeLine (a : Automaton) (edge : Nat × Nat) : String :=
  "  " ++ stateName edge.1 ++ " --[" ++ String.ofList (a.edgeChars edge.1 edge.2) ++ "]--> " ++
    stateName edge.2

/-- The transition table as text. -/
def report (a : Automaton) : String :=
  "\n".intercalate <|
    ["=== " ++ Text.capitalized a.name ++ " Automaton ===",
     "Total States: " ++ toString a.stateCount,
     "Start State: " ++ stateName a.start,
     "Accepting States: " ++ ", ".intercalate (a.acceptingStates.map stateName),
     "Transitions:"] ++ a.edges.map a.edgeLine

/-- An automaton on one line: its name, its number of states and its accepting states. -/
def summary (a : Automaton) : String :=
  "Automaton(" ++ Text.quoted a.name ++ ", states=" ++ toString a.stateCount ++ ", accepting=[" ++
    ", ".intercalate (a.acceptingStates.map toString) ++ "])"

end Automaton

end BlockLang
