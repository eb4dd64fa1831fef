import BlockLang.Automaton.Transitions
import BlockLang.CommandLine.Failure
import BlockLang.CommandLine.Request

/-! # The command `tlc`

What the command writes and how it ends, as a function of its arguments, the environment and the
files.

* `usage`, `help`, `versionText`: the fixed texts.
* `logText`: the log on the error channel, warnings only unless more is asked for.
* `sections`: the reports that are asked for, in a fixed order.
* `Task.runOn`, `Task.runOnPoints`: a task on the program in a file, and on code points that are no
  program. These are checked too, but the output takes no surrogates.
* `run`: the command. -/

namespace BlockLang.CommandLine

/-- The usage of the command. -/
def usage : String := "Usage: tlc [OPTIONS] INPUT_FILE\n"

/-- The help of the command. -/
def help : String :=
  usage ++
  "\n" ++
  "  Tokenize and check a tinylang program.\n" ++
  "\n" ++
  "  INPUT_FILE is the source file to check.\n" ++
  "\n" ++
  "  Examples:\n" ++
  "      tlc program.tl                   # Diagnostics only\n" ++
  "      tlc program.tl --tokens          # Also print tokens\n" ++
  "      tlc program.tl --symbols         # Also print the symbol table\n" ++
  "      tlc program.tl --automata        # Also print automata\n" ++
  "\n" ++
  "Options:\n" ++
  "  --tokens                        Print the token list\n" ++
  "  --symbols                       Print the symbol table\n" ++
  "  --automata                      Print the transition tables of the lexer's\n" ++
  "                                  automata\n" ++
  "  --max-fraction-digits INTEGER RANGE\n" ++
  "                                  Longest allowed fractional part of decimal\n" ++
  "                                  literals (default:\n" ++
  "                                  $TINYLANG_MAX_FRACTION_DIGITS or 5)  [x>=0]\n" ++
  "  -v, --verbose                   Verbose output\n" ++
  "  --version                       Show the version and exit.\n" ++
  "  --help                          Show this message and exit.\n"

/-- The version of the command. -/
def versionText : String := "tlc, version 1.0.0\n"

/-- What a notice writes. -/
def Notice.text : Notice → String
  | help => CommandLine.help
  | version => versionText

/-- The text that tells a usage error. -/
def UsageError.text (e : UsageError) : String :=
  (if e.showsUsage then usage ++ "Try 'tlc --help' for help.\n\n" else "") ++
    shown ("Error: " ++ e.message ++ "\n")

/-- An event as a line of the log. In a full log the level and the channel stand before it. -/
def eventLine (full : Bool) (e : Event) : String :=
  (if full then e.level.name ++ ": " ++ e.channel ++ ": " else "") ++ e.message ++ "\n"

/-- The log as text: all events, or the warnings only. -/
def logText (full : Bool) (events : List Event) : String :=
  String.join ((events.filter fun e => full || e.level = .warning).map (eventLine full))

/-- The options of a task: a limit that is given as an argument counts before the environment. -/
def Task.options (t : Task) (env : Environment) : Options :=
  let base := env.options
  { base with maxFractionDigits := t.limit.getD base.maxFractionDigits }

/-- The reports that a task asks for. An empty line parts tokens and symbols, and another one stands
before each automaton. -/
def sections (t : Task) (o : Outcome) : String :=
  (if t.has .tokens then Report.ofTokens o.tokens ++ "\n" else "") ++
  (if t.has .symbols then
    (if t.has .tokens then "\n" else "") ++ Report.ofSymbols o.symbols ++ "\n" else "") ++
  (if t.has .automata then
    String.join (Automaton.lexical.map fun a => "\n" ++ a.report ++ "\n") else "")

/-- The line that a full run without diagnostics ends with. -/
def successLine (o : Outcome) : String :=
  "Checked " ++ o.filename ++ ": " ++ toString o.tokenCount ++ " tokens, no errors\n"

/-- The events before a file is read. -/
def configurationEvents (t : Task) (env : Environment) : List Event :=
  let options := t.options env
  env.warnings ++ [.configured options.maxFractionDigits options.encoding]

/-- What a task writes to the log where it checks a program. -/
def Task.logged (t : Task) (env : Environment) (source : String) : String :=
  logText (t.has .verbose)
    (configurationEvents t env ++ log (t.options env) source (shownPath t.path))

/-- Carries out a task on a program. -/
def Task.runOn (t : Task) (env : Environment) (source : String) : Ending :=
  let outcome := check (t.options env) source (shownPath t.path)
  if outcome.success then
    ⟨0, shown (sections t outcome ++ if t.has .verbose then successLine outcome else ""),
      t.logged env source⟩
  else
    let failure := Failure.refused outcome.records
    ⟨failure.exitCode, shown (sections t outcome),
      t.logged env source ++ shown (failure.text ++ "\n")⟩

/-- The report on the tokens of a text as it is shown. -/
def shownTokens (text : List Char) : List Char :=
  (shown (Report.ofTokens (tokenize (sourceOf text)) ++ "\n")).toList

/-- What keeps the tokens of some code points from being shown. -/
def tokensFault? (points : List CodePoint) : Option CodePoint.WritingFault :=
  CodePoint.writingFault? 0 (CodePoint.through shownTokens points)

/-- Carries out a task on code points with surrogates among them. No report but the first has any,
so that either nothing can be written to the output or everything. The error channel takes all
surrogates, which it escapes. -/
def Task.runOnPoints (t : Task) (env : Environment) (points : List CodePoint) : Ending :=
  let written (text : List Char) := (t.runOn env (sourceOf text)).stderr.toList
  match if t.has .tokens then tokensFault? points else none with
  | some fault =>
    let failure := Failure.internal fault.message
    ⟨failure.exitCode, "", t.logged env (disguised points) ++ shown (failure.text ++ "\n")⟩
  | none =>
    { t.runOn env (disguised points) with
      stderr := String.ofList (CodePoint.escaped (CodePoint.through written points)) }

/-- Carries out a task. -/
def Task.run (t : Task) (env : Environment) (files : FileSystem) : Ending :=
  match readSource files (t.options env).encoding t.path with
  | .ok source => t.runOn env source
  | .error (.undecodable (.surrogates points)) => t.runOnPoints env points
  | .error e =>
    let failure := failureOfReadError e
    ⟨failure.exitCode, "",
      logText (t.has .verbose) (configurationEvents t env) ++ shown (failure.text ++ "\n")⟩

/-- The end of a command that its arguments keep from starting. -/
def UsageError.ending (e : UsageError) : Ending := ⟨2, "", e.text⟩

/-- The order that some arguments give. -/
def order (files : FileSystem) (arguments : List String) : Except Obstacle Order :=
  match Request.parse arguments with
  | .error e => .error (.usage e)
  | .ok request => request.order files

/-- The command. It does not come to an end of its own if the path has a null character. -/
def run (env : Environment) (files : FileSystem) (arguments : List String) :
    Except NullCharacter Ending :=
  match order files arguments with
  | .error .nullCharacter => .error ⟨⟩
  | .error (.usage e) => .ok e.ending
  | .ok (.notice n) => .ok ⟨0, n.text, ""⟩
  | .ok (.check t) => .ok (t.run env files)

end BlockLang.CommandLine
