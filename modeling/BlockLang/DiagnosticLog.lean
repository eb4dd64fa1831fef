import BlockLang.Diagnostic

/-! # Logs of diagnostics

A `DiagnosticLog` holds the diagnostics of one or more runs in the order in which they were
reported; equal ones are all kept. `Rejection` is the refusal of a program, with every diagnostic
against it. -/

namespace BlockLang

/-- The refusal of a program. -/
structure Rejection where
  records : List Record
  deriving DecidableEq, Repr

/-- Diagnostics as text, one after the other on lines of their own. -/
def renderRecords (rs : List Record) : String := "\n".intercalate (rs.map Record.render)

/-- The text of a refusal: its diagnostics, one per line. -/
def Rejection.message (r : Rejection) : String := renderRecords r.records

/-- The diagnostics reported so far, the oldest first. -/
structure DiagnosticLog where
  records : List Record := []
  deriving DecidableEq, Repr

namespace DiagnosticLog

/-- Adds a diagnostic. -/
def report (log : DiagnosticLog) (r : Record) : DiagnosticLog := ⟨log.records ++ [r]⟩

/-- Adds some findings in their order. -/
def reportAll (log : DiagnosticLog) (fs : List Finding) : DiagnosticLog :=
  ⟨log.records ++ fs.map Finding.record⟩

/-- The number of diagnostics. -/
def count (log : DiagnosticLog) : Nat := log.records.length

/-- Whether there is a diagnostic. -/
def hasErrors (log : DiagnosticLog) : Bool := !log.records.isEmpty

/-- All diagnostics, one per line. -/
def text (log : DiagnosticLog) : String := renderRecords log.records

/-- All diagnostics, one per line, and their number after an empty line. -/
def summary (log : DiagnosticLog) : String :=
  let total := toString log.count ++ if log.count = 1 then " error" else " errors"
  if log.hasErrors then log.text ++ "\n\n" ++ total else total

/-- A refusal with all diagnostics, if there is one. -/
def rejection? (log : DiagnosticLog) : Option Rejection :=
  if log.hasErrors then some ⟨log.records⟩ else none

end DiagnosticLog

end BlockLang
