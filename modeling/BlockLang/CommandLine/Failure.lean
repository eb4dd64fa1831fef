import BlockLang.Report
import BlockLang.SourceFile
import BlockLang.Text.ControlSequence

/-! # Failures of the program

How a failure ends the program: with a text on the error channel and an exit code. A refused
program ends it with `1`, unreadable input with `2`, and everything else with `3`. -/

namespace BlockLang.CommandLine

/-- What the program leaves when it ends: its exit code and the texts that it wrote. -/
structure Ending where
  exitCode : Nat
  stdout : String
  stderr : String
  deriving DecidableEq, Repr

/-- A text as the program shows it: without control sequences, as it writes to no terminal. -/
def shown (text : String) : String := String.ofList (Text.withoutControlSequences text.toList)

/-- What can go wrong after the arguments have been read. -/
inductive Failure
  | refused (records : List Record)
  | misuse (message : String)
  | unreadable (message : String)
  | internal (message : String)
  deriving DecidableEq, Repr

namespace Failure

/-- The exit code of a failure. -/
def exitCode : Failure → Nat
  | refused _ => 1
  | unreadable _ => 2
  | misuse _ | internal _ => 3

/-- The text that tells a failure. -/
def text : Failure → String
  | refused rs => Report.ofRecords rs
  | misuse message | unreadable message => "Error: " ++ message
  | internal message => "Internal error: " ++ message

/-- The end of a program that has written nothing before it failed. -/
def ending (f : Failure) : Ending := ⟨f.exitCode, "", shown (f.text ++ "\n")⟩

end Failure

/-- The failure that a read error is. Only a missing file and bytes at fault make the input
unreadable. -/
def failureOfReadError (e : ReadError) : Failure :=
  match e with
  | .notFound _ | .undecodable (.fault _) => .unreadable e.message
  | .nameTooLong _ | .isDirectory _ | .nullInEncoding | .unknownEncoding _ | .notTextEncoding _
  | .undecodable _ => .internal e.message

end BlockLang.CommandLine
