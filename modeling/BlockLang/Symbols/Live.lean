import BlockLang.Symbols.Operation

/-! # Live views of a symbol table

A `LiveTable` is a symbol table whose frames have numbers, so that others can go on looking at a
frame. Closing a frame puts a copy of it into the archive, under a number of its own. A `View`
remembers the numbers of the frames that were open or archived at one moment; read later, it shows
the same frames with the contents they have by then.

* `table`: the symbol table that a live table holds.
* `view`, `snapshot`: a view of the frames themselves, and one of copies of them.
* `read`: what a view shows. -/

namespace BlockLang

/-- A symbol table with numbered frames: the contents of all frames that there ever were, copies
included, the numbers of the open ones, innermost first, and those of the archived ones. -/
structure LiveTable where
  contents : List Frame := [{}]
  innermost : Nat := 0
  enclosing : List Nat := []
  archive : List Nat := []
  deriving DecidableEq, Repr

/-- What is remembered of a table: the numbers of the outermost frame, of the archived frames and of
the open frames of blocks, the outer ones first. -/
structure View where
  outermost : Nat
  archived : List Nat
  active : List Nat
  deriving DecidableEq, Repr

/-- All numbers of a view. -/
def View.numbers (v : View) : List Nat := v.outermost :: (v.archived ++ v.active)

namespace LiveTable

/-- The contents of a frame. -/
def frame (t : LiveTable) (number : Nat) : Frame := t.contents.getD number {}

/-- The numbers of the open frames, innermost first. -/
def opened (t : LiveTable) : List Nat := t.innermost :: t.enclosing

/-- The symbol table that a live table holds. -/
def table (t : LiveTable) : SymbolTable :=
  ⟨t.frame t.innermost, t.enclosing.map t.frame, t.archive.map t.frame⟩

/-- Adds frames under the next numbers. -/
def grow (t : LiveTable) (frames : List Frame) : LiveTable :=
  { t with contents := t.contents ++ frames }

/-- Opens a frame for a block, under the next number. -/
def enter (t : LiveTable) : LiveTable :=
  { t.grow [{}] with innermost := t.contents.length, enclosing := t.opened }

/-- Closes the innermost frame and archives a copy of it, unless it is the outermost one. -/
def exit (t : LiveTable) : LiveTable :=
  match t.enclosing with
  | [] => t
  | n :: ns =>
    { t.grow [t.frame t.innermost] with
      innermost := n, enclosing := ns, archive := t.archive ++ [t.contents.length] }

/-- Labels a name in the innermost frame. -/
def insert (t : LiveTable) (name label : String) : LiveTable :=
  { t with contents := t.contents.modify t.innermost (·.insert name label) }

/-- The live table after an operation. -/
def apply (t : LiveTable) : SymbolTable.Op → LiveTable
  | .enter => t.enter
  | .exit => t.exit
  | .insert name label => t.insert name label

/-- The view of a table at this moment. -/
def view (t : LiveTable) : View :=
  ⟨(t.enclosing.getLast?).getD t.innermost, t.archive, t.opened.dropLast.reverse⟩

/-- What a view shows at this moment. -/
def read (t : LiveTable) (v : View) : Snapshot :=
  ⟨t.frame v.outermost, v.archived.map t.frame, v.active.map t.frame⟩

/-- Copies the frames of a view, and gives the view of the copies. -/
def copy (t : LiveTable) (v : View) : LiveTable × View :=
  let size := t.contents.length
  (t.grow (v.numbers.map t.frame),
    ⟨size, List.range' (size + 1) v.archived.length,
      List.range' (size + 1 + v.archived.length) v.active.length⟩)

/-- A view of the table as it is at this moment and stays there. -/
def snapshot (t : LiveTable) : LiveTable × View := t.copy t.view

end LiveTable

end BlockLang
