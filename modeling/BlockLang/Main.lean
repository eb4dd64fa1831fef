import BlockLang.CommandLine.Run

/-! # The command line program

Reads the environment and the file that the arguments name, and writes what `CommandLine.run` says
that the program writes. -/

namespace BlockLang.CommandLine

/-- What a path leads to. A path that can be opened but not read leads to a directory. -/
def lookUp (path : String) : IO (Except PathFault FileEntry) := do
  match ← (IO.FS.Handle.mk path .read).toBaseIO with
  | .error _ => return .error .missing
  | .ok handle =>
    match ← handle.readBinToEnd.toBaseIO with
    | .ok bytes => return .ok (.file bytes.toList)
    | .error _ => return .ok .directory

/-- The paths that a command may look at: the first argument that is no option, as it is written and
as it is shown. -/
def pathsOf (arguments : List String) : List String :=
  match Request.parse arguments with
  | .ok ⟨_, _, _, path :: _⟩ => [path, shownPath path]
  | _ => []

/-- The files that a command may look at, as they are now. -/
def filesOf (arguments : List String) : IO FileSystem := do
  let found ← (pathsOf arguments).mapM fun path => return (path, ← lookUp path)
  return fun path => (found.lookup path).getD (.error .missing)

/-- The variables that set options, as they are now. -/
def currentEnvironment : IO Environment := do
  return ⟨← IO.getEnv "TINYLANG_MAX_FRACTION_DIGITS", ← IO.getEnv "TINYLANG_ENCODING"⟩

end BlockLang.CommandLine

open BlockLang CommandLine in
/-- Runs the command. -/
def main (arguments : List String) : IO UInt32 := do
  match run (← currentEnvironment) (← filesOf arguments) arguments with
  | .error e => throw (IO.userError e.message)
  | .ok ending =>
    (← IO.getStdout).putStr ending.stdout
    (← IO.getStderr).putStr ending.stderr
    return ending.exitCode.toUInt32
