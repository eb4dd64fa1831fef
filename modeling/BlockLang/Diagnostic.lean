/-! # Diagnostics

What can be wrong with a program, and how it is told.

* `Problem`: the causes, each with the texts its message needs; `Problem.message` is their wording
  and `Problem.kind` the stage that finds them.
* `Finding`: a problem on a line.
* `Record`: a diagnostic as it is reported, a kind, a message and perhaps a line; `Record.render`
  is its line of a report. `Finding.record` reports a finding.

A message writes out a limit of any length. The guard of the runtime against writing integers of
more than 4300 digits, which `Text.maxDigits` is when they are read, is left out here. -/

namespace BlockLang

/-- The stages that report diagnostics. -/
inductive DiagnosticKind
  | lexical
  | semantic
  deriving DecidableEq, Repr

/-- The two statement forms that have a value. -/
inductive ValueForm
  | declaration
  | assignment
  deriving DecidableEq, Repr

/-- The causes of diagnostics. -/
inductive Problem
  | invalidCharacter (c : Char)
  | unclosedComment
  | unclosedString
  | unclosedCharacter
  | fractionTooLong (limit : Int) (lexeme : String)
  | invalidExponent (lexeme : String)
  | expectedName (type : String)
  | invalidName (name : String)
  | redeclared (name : String)
  | undeclared (form : ValueForm) (name : String)
  | missingAssign (form : ValueForm) (name : String)
  | missingSemicolon (form : ValueForm) (name : String)
  | unclosedBlock
  deriving DecidableEq, Repr

namespace Problem

/-- The stage that finds a problem. -/
def kind : Problem → DiagnosticKind
  | invalidCharacter _ | unclosedComment | unclosedString | unclosedCharacter
  | fractionTooLong _ _ | invalidExponent _ => .lexical
  | _ => .semantic

/-- The wording of a problem. -/
def message : Problem → String
  | invalidCharacter c => "Invalid character: '" ++ c.toString ++ "'"
  | unclosedComment => "Unclosed multi-line comment"
  | unclosedString => "Unclosed string literal"
  | unclosedCharacter => "Unclosed character literal"
  | fractionTooLong limit lexeme =>
      "Decimal exceeds " ++ toString limit ++ " places: " ++ lexeme
  | invalidExponent lexeme => "Invalid exponent: " ++ lexeme
  | expectedName type => "Expected identifier after type keyword " ++ type
  | invalidName name => "Invalid identifier '" ++ name ++ "'. Must be a single lowercase letter."
  | redeclared name => "Variable '" ++ name ++ "' already declared in this scope."
  | undeclared .declaration name =>
      "Variable '" ++ name ++ "' used in initialization is not declared."
  | undeclared .assignment name => "Variable '" ++ name ++ "' is not declared."
  | missingAssign .declaration name => "Expected '=' in declaration for variable " ++ name
  | missingAssign .assignment name => "Expected '=' in assignment for variable " ++ name
  | missingSemicolon .declaration name => "Missing semicolon after declaration of " ++ name
  | missingSemicolon .assignment name => "Missing semicolon in assignment for variable " ++ name
  | unclosedBlock => "Missing closing brace"

end Problem

/-- A diagnostic as it is reported. The line is missing where none applies. -/
structure Record where
  kind : DiagnosticKind
  line : Option Int
  message : String
  deriving DecidableEq, Repr

/-- The line of a report that tells a diagnostic. A missing or negative line is left out. -/
def Record.render (r : Record) : String :=
  match r.line with
  | some n => if 0 ≤ n then "[Line " ++ toString n ++ "] ERROR: " ++ r.message
      else "ERROR: " ++ r.message
  | none => "ERROR: " ++ r.message

/-- A problem and the line on which it is. -/
structure Finding where
  line : Int
  problem : Problem
  deriving DecidableEq, Repr

/-- The diagnostic that reports a finding. -/
def Finding.record (f : Finding) : Record := ⟨f.problem.kind, some f.line, f.problem.message⟩

end BlockLang
