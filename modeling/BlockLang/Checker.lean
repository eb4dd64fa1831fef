import BlockLang.Diagnostic
import BlockLang.Statement
import BlockLang.Symbols.Operation

/-! # Checking statements

The checker walks over the statements of a token list with a symbol table. A brace opens or closes
a frame, a declaration adds its name to the innermost frame unless it is there already, and every
name that is assigned or used must be in some open frame. A closing brace counts only while the
checker has a block open; a block that is open at the end is reported, and its frame stays open.

* `CheckState`: the table and the braces of the open blocks; `step` is one statement.
* `report`: the findings on one statement.
* `trace`: the events of one statement.
* `Checker`: the tokens that are still to be checked; `Checker.check` checks them all. -/

namespace BlockLang

/-- Whether a declared name is known everywhere or only in its block. -/
inductive Visibility
  | global
  | block
  deriving DecidableEq, Repr

/-- The word for a visibility in labels. -/
def Visibility.word : Visibility → String
  | .global => "global"
  | .block => "local"

/-- The label of a name: its type and its visibility. -/
def label (type : String) (v : Visibility) : String := type ++ "-" ++ v.word

/-- The visibility of a name declared in the innermost frame. -/
def SymbolTable.visibility (t : SymbolTable) : Visibility := if t.depth = 1 then .global else .block

/-- The table after a declaration. A name that the innermost frame has keeps its label. -/
def SymbolTable.declare (t : SymbolTable) (type name : String) : SymbolTable :=
  if t.existsHere name then t else t.insert name (label type t.visibility)

/-- The state of a check: the symbol table, and the opening braces of the blocks that the checker
has open, innermost first. -/
structure CheckState where
  table : SymbolTable
  openBraces : List Token := []
  deriving DecidableEq, Repr

namespace CheckState

/-- The state after a statement. -/
def step (s : CheckState) : Statement → CheckState
  | .openBlock brace => ⟨s.table.enter, brace :: s.openBraces⟩
  | .closeBlock _ =>
    match s.openBraces with
    | [] => s
    | _ :: braces => ⟨s.table.exit, braces⟩
  | .declaration type name _ => { s with table := s.table.declare type.lexeme name.lexeme }
  | .loneType _ | .assignment _ _ | .other _ => s

/-- The findings on the body of a statement, whose first token is on `line`. -/
def reportBody (t : SymbolTable) (form : ValueForm) (line : Int) (name : String) (b : Body) :
    List Finding :=
  (if b.assign.isSome then [] else [⟨line, .missingAssign form name⟩]) ++
  ((b.uses.filter fun u => !t.isVisible u.lexeme).map fun u =>
    ⟨u.line, .undeclared form u.lexeme⟩) ++
  (if b.semicolon.isSome then [] else [⟨line, .missingSemicolon form name⟩])

/-- The findings on a statement. A declared name is known in its own value. -/
def report (s : CheckState) : Statement → List Finding
  | .declaration type name body =>
    (if name.lexeme.length = 1 then [] else [⟨name.line, .invalidName name.lexeme⟩]) ++
    (if s.table.existsHere name.lexeme then [⟨name.line, .redeclared name.lexeme⟩] else []) ++
    reportBody (s.table.declare type.lexeme name.lexeme) .declaration type.line name.lexeme body
  | .loneType type => [⟨type.line, .expectedName type.lexeme⟩]
  | .assignment name body =>
    (if s.table.isVisible name.lexeme then []
      else [⟨name.line, .undeclared .assignment name.lexeme⟩]) ++
    reportBody s.table .assignment name.line name.lexeme body
  | .openBlock _ | .closeBlock _ | .other _ => []

/-- The events of a statement. -/
def trace (s : CheckState) : Statement → List Event
  | .openBlock _ => s.table.events .enter
  | .closeBlock _ => if s.openBraces.isEmpty then [] else s.table.events .exit
  | .declaration type name _ =>
    if s.table.existsHere name.lexeme then []
    else [.declared name.lexeme (label type.lexeme s.table.visibility)]
  | .loneType _ | .assignment _ _ | .other _ => []

/-- The state after some statements. -/
def run (s : CheckState) (sts : List Statement) : CheckState := sts.foldl step s

/-- The findings on some statements, in order. -/
def reportAll (s : CheckState) : List Statement → List Finding
  | [] => []
  | st :: sts => s.report st ++ (s.step st).reportAll sts

/-- The events of some statements, in order. -/
def traceAll (s : CheckState) : List Statement → List Event
  | [] => []
  | st :: sts => s.trace st ++ (s.step st).traceAll sts

/-- The findings at the end: the blocks that are still open, innermost first. -/
def unclosed (s : CheckState) : List Finding := s.openBraces.map fun b => ⟨b.line, .unclosedBlock⟩

end CheckState

/-- The tokens before the first end of input. -/
def beforeEnd (tokens : List Token) : List Token := tokens.takeWhile (·.kind ≠ .endOfInput)

/-- The tokens from the first end of input on. -/
def fromEnd (tokens : List Token) : List Token := tokens.dropWhile (·.kind ≠ .endOfInput)

/-- A checker: the tokens that it has not passed yet. It passes no end of input. -/
structure Checker where
  pending : List Token
  deriving DecidableEq, Repr

/-- What a check gives: the checker at its end, the symbol table, the findings and the events. -/
structure CheckOutcome where
  checker : Checker
  table : SymbolTable
  findings : List Finding
  events : List Event
  deriving DecidableEq, Repr

/-- Checks the pending tokens of a checker against a symbol table. -/
def Checker.check (c : Checker) (t : SymbolTable) : CheckOutcome :=
  let sts := statements (beforeEnd c.pending)
  let start : CheckState := ⟨t, []⟩
  let final := start.run sts
  { checker := ⟨fromEnd c.pending⟩
    table := final.table
    findings := start.reportAll sts ++ final.unclosed
    events := start.traceAll sts }

end BlockLang
