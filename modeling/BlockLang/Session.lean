import BlockLang.FrontEnd

/-! # Sessions

A session checks one text or token list after the other with the same symbol table and the same log
of diagnostics. -/

namespace BlockLang

/-- The state of a session: the diagnostics, the symbol table and the checker that was used last. -/
structure Session where
  options : Options := {}
  diagnostics : DiagnosticLog := {}
  table : SymbolTable := {}
  checker : Option Checker := none
  deriving DecidableEq, Repr

namespace Session

/-- Runs a checker in a session. -/
def runChecker (s : Session) (c : Checker) : Session :=
  let outcome := c.check s.table
  { s with
    diagnostics := s.diagnostics.reportAll outcome.findings
    table := outcome.table
    checker := some outcome.checker }

/-- Checks a token list. -/
def checkTokens (s : Session) (tokens : List Token) : Session := s.runChecker ⟨tokens⟩

/-- Cuts a text into tokens and checks them. -/
def checkSource (s : Session) (source : String) : Session :=
  let findings := lexicalFindings s.options.maxFractionDigits source
  { s with diagnostics := s.diagnostics.reportAll findings }.checkTokens (tokenize source)

/-- Runs the checker that was used last once more, if there is one. -/
def recheck? (s : Session) : Option Session := s.checker.map s.runChecker

/-- Carries out an operation on the symbol table. -/
def apply (s : Session) (op : SymbolTable.Op) : Session := { s with table := s.table.apply op }

/-- Forgets the diagnostics. -/
def clearErrors (s : Session) : Session := { s with diagnostics := {} }

end Session

end BlockLang
