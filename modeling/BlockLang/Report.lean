import BlockLang.DiagnosticLog
import BlockLang.Symbols.Table
import BlockLang.Token

/-! # Reports

The products of a run as text: a heading, and below it the tokens, the frames or the diagnostics,
one per line. -/

namespace BlockLang.Report

/-- Lines put below each other. -/
def lines (ls : List String) : String := "\n".intercalate ls

/-- The report on some tokens. -/
def ofTokens (tokens : List Token) : String := lines ("=== Tokens ===" :: tokens.map Token.render)

/-- A name and its label as a line of a report. -/
def entryLine (entry : String × String) : String := "  " ++ entry.1 ++ " : " ++ entry.2

/-- A frame as lines of a report: a title, and its names below. -/
def frameLines (title : String) (f : Frame) : List String := title :: f.entries.map entryLine

/-- The report on the contents of a symbol table: the outermost frame, the archived frames, and the
frames that are still open. -/
def ofSymbols (s : Snapshot) : String :=
  lines <| "=== Symbol Table ===" :: frameLines "global scope:" s.outermost ++
    s.archived.flatMap (frameLines "local scope (exited):") ++
    s.active.flatMap (frameLines "local scope (active):")

/-- The report on some diagnostics; the empty text if there are none. -/
def ofRecords (rs : List Record) : String :=
  if rs.isEmpty then "" else lines ("=== Errors ===" :: rs.map Record.render)

end BlockLang.Report
