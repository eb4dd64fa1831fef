import BlockLang.Checker
import BlockLang.DiagnosticLog
import BlockLang.Lexing
import BlockLang.Options

/-! # Checking programs

A program text is cut into tokens, its statements are checked against an empty symbol table, and
the findings of both passes are reported, the lexical ones first.

* `Outcome`: what a run gives.
* `check`: the outcome of a run; `log`: its events.
* `Outcome.accepted`: the outcome, unless there is a diagnostic. -/

namespace BlockLang

/-- What a run on a program gives: its tokens, the contents of the symbol table and the findings. -/
structure Outcome where
  filename : String
  tokens : List Token
  symbols : Snapshot
  findings : List Finding
  deriving DecidableEq, Repr

namespace Outcome

/-- The diagnostics of a run. -/
def records (o : Outcome) : List Record := o.findings.map Finding.record

/-- Whether a program has no diagnostic. -/
def success (o : Outcome) : Bool := o.findings.isEmpty

/-- The number of tokens, the end of input included. -/
def tokenCount (o : Outcome) : Nat := o.tokens.length

/-- The outcome of a program that has no diagnostic; the refusal of one that has. -/
def accepted (o : Outcome) : Except Rejection Outcome :=
  if o.success then .ok o else .error ⟨o.records⟩

end Outcome

/-- The check of the statements of a program text on an empty symbol table. -/
def checkStatements (source : String) : CheckOutcome := Checker.check ⟨tokenize source⟩ {}

/-- Checks a program text. -/
def check (options : Options) (source filename : String) : Outcome where
  filename := filename
  tokens := tokenize source
  symbols := (checkStatements source).table.snapshot
  findings := lexicalFindings options.maxFractionDigits source ++ (checkStatements source).findings

/-- The events of a check. -/
def log (options : Options) (source filename : String) : List Event :=
  let count := (tokenize source).length
  [.lexing filename, .tokenized count, .checking filename count] ++
    (checkStatements source).events ++
    [.finished filename count (check options source filename).findings.length]

end BlockLang
