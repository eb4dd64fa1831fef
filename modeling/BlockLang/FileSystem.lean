/-! # Paths and files

A path is a row of names between slashes, followed from the working directory or from the root.

* `FileSystem`: what is found under each path.
* `shownPath`: a path as messages show it.
* `Folder`: a working directory that is given as data; `Folder.find` follows a path from it. -/

namespace BlockLang

/-- What a path can lead to. -/
inductive FileEntry
  | file (bytes : List UInt8)
  | directory
  deriving DecidableEq, Repr

/-- Why a path leads to nothing. -/
inductive PathFault
  | missing
  | nameTooLong
  | nullCharacter
  deriving DecidableEq, Repr

/-- What is found under each path. -/
abbrev FileSystem := String → Except PathFault FileEntry

/-! ### Paths -/

/-- The names between the slashes of a path. -/
def pathNames (path : String) : List String := path.splitOn "/"

/-- Whether a path starts at the root. -/
def isAbsolute (path : String) : Bool := path.toList.head? = some '/'

/-- The slashes that stand for the root at the start of a path: one, or two if there are two. -/
def rootOf (path : String) : String :=
  match (path.toList.takeWhile (· = '/')).length with
  | 0 => ""
  | 2 => "//"
  | _ => "/"

/-- A path without empty names and without names for the same place. -/
def shownPath (path : String) : String :=
  let names := (pathNames path).filter fun name => name ≠ "" ∧ name ≠ "."
  let shown := rootOf path ++ "/".intercalate names
  if shown = "" then "." else shown

/-- The most bytes that a name in a path can have. -/
def longestName : Nat := 255

/-- The most bytes that a path can have. -/
def longestPath : Nat := 4095

/-! ### Places -/

/-- Where a path has led so far: to the working directory, into a directory inside it, to a
directory above it of which a number of others lie below the root, or to a directory of the system,
told by the names that lead there from the root. -/
inductive Place
  | here
  | inside
  | above (height : Nat)
  | system (names : List String)
  deriving DecidableEq, Repr

/-- The root. -/
def Place.root : Place := .system []

/-- The directory above the working directory that is a given number of steps below the root. -/
def Place.ofHeight : Nat → Place
  | 0 => root
  | height + 1 => above height

/-- The directories that every system has, each by the names that lead there from the root. -/
def systemDirectories : List (List String) :=
  [["bin"], ["boot"], ["dev"], ["dev", "pts"], ["dev", "shm"], ["etc"], ["home"], ["lib"],
   ["lib64"], ["media"], ["mnt"], ["opt"], ["proc"], ["root"], ["run"], ["sbin"], ["srv"], ["sys"],
   ["tmp"], ["usr"], ["usr", "bin"], ["usr", "include"], ["usr", "lib"], ["usr", "local"],
   ["usr", "local", "bin"], ["usr", "local", "lib"], ["usr", "local", "share"], ["usr", "sbin"],
   ["usr", "share"], ["usr", "src"], ["var"], ["var", "cache"], ["var", "lib"], ["var", "log"],
   ["var", "opt"], ["var", "spool"], ["var", "tmp"]]

/-- What a place of the system is. Of its files only the null device is known, which is empty. -/
def inSystem? (names : List String) : Option FileEntry :=
  if names ∈ systemDirectories then some .directory
  else if names = ["dev", "null"] then some (.file [])
  else none

/-! ### Folders -/

/-- A working directory with files and empty directories, a number of steps below the root. -/
structure Folder where
  entries : List (String × FileEntry) := []
  height : Nat := 2
  deriving DecidableEq, Repr

namespace Folder

/-- The place of which a place is part. The root is part of itself. -/
def parent (folder : Folder) : Place → Place
  | .inside => .here
  | .here => .ofHeight (folder.height - 1)
  | .above height => .ofHeight height
  | .system names => .system names.dropLast

/-- What a name leads to from a place, and the place there. -/
def child? (folder : Folder) (place : Place) (name : String) : Option (FileEntry × Place) :=
  match place with
  | .here => (folder.entries.lookup name).map fun e => (e, .inside)
  | .system names => (inSystem? (names ++ [name])).map fun e => (e, .system (names ++ [name]))
  | .inside | .above _ => none

/-- What the rest of a path leads to from a place. A name that is too long is a fault only where it
is looked up. -/
def follow (folder : Folder) : Place → List String → Except PathFault FileEntry
  | _, [] => .ok .directory
  | place, name :: names =>
    if name = "" ∨ name = "." then folder.follow place names
    else if name = ".." then folder.follow (folder.parent place) names
    else if longestName < name.utf8ByteSize then .error .nameTooLong
    else
      match folder.child? place name with
      | some (.directory, next) => folder.follow next names
      | some (.file bytes, _) => if names = [] then .ok (.file bytes) else .error .missing
      | none => .error .missing

/-- What a path leads to. The empty path leads nowhere. -/
def find (folder : Folder) : FileSystem := fun path =>
  if path = "" then .error .missing
  else if '\x00' ∈ path.toList then .error .nullCharacter
  else if longestPath < path.utf8ByteSize then .error .nameTooLong
  else folder.follow (if isAbsolute path then .root else .here) (pathNames path)

end Folder

end BlockLang
