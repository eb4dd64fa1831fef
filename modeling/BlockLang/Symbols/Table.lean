import BlockLang.Symbols.Frame

/-! # Symbol tables

A *symbol table* is a stack of frames that is never empty, with an archive of the frames that have
left it. The outermost frame belongs to no block and stays.

* `enter`, `exit`, `insert`: the operations. `exit` moves the innermost frame to the end of the
  archive; where only the outermost frame is left, it does nothing.
* `frames`, `depth`: the stack, innermost frame first, and its height.
* `existsHere`, `isVisible`: look-up in the innermost frame, and in all frames.
* `snapshot`: the contents of a table, ordered as reports show them. -/

namespace BlockLang

/-- The contents of a symbol table: the outermost frame, the archived frames in the order in which
they were closed, and the open frames of blocks, the outer ones first. -/
structure Snapshot where
  outermost : Frame := {}
  archived : List Frame := []
  active : List Frame := []
  deriving DecidableEq, Repr

/-- A stack of frames, with the innermost one apart, and the archive of closed frames. -/
structure SymbolTable where
  innermost : Frame := {}
  enclosing : List Frame := []
  archive : List Frame := []
  deriving DecidableEq, Repr

namespace SymbolTable

/-- The open frames, innermost first. -/
def frames (t : SymbolTable) : List Frame := t.innermost :: t.enclosing

/-- The number of open frames. -/
def depth (t : SymbolTable) : Nat := t.frames.length

/-- Opens a frame for a block. -/
def enter (t : SymbolTable) : SymbolTable := { t with innermost := {}, enclosing := t.frames }

/-- Closes the innermost frame and archives it, unless it is the outermost one. -/
def exit (t : SymbolTable) : SymbolTable :=
  match t.enclosing with
  | [] => t
  | f :: fs => ⟨f, fs, t.archive ++ [t.innermost]⟩

/-- Labels a name in the innermost frame. -/
def insert (t : SymbolTable) (name label : String) : SymbolTable :=
  { t with innermost := t.innermost.insert name label }

/-- Whether the innermost frame has a name. -/
def existsHere (t : SymbolTable) (name : String) : Bool := t.innermost.contains name

/-- Whether some open frame has a name. -/
def isVisible (t : SymbolTable) (name : String) : Bool := t.frames.any (·.contains name)

/-- The contents of a table. -/
def snapshot (t : SymbolTable) : Snapshot where
  outermost := (t.enclosing.getLast?).getD t.innermost
  archived := t.archive
  active := t.frames.dropLast.reverse

theorem depth_pos (t : SymbolTable) : 0 < t.depth := Nat.succ_pos _

theorem depth_enter (t : SymbolTable) : t.enter.depth = t.depth + 1 := rfl

theorem exit_enter (t : SymbolTable) : t.enter.exit = { t with archive := t.archive ++ [{}] } := rfl

theorem exit_of_depth_eq_one {t : SymbolTable} (h : t.depth = 1) : t.exit = t := by
  cases t with
  | mk f fs _ =>
    cases fs with
    | nil => rfl
    | cons g gs => simp [depth, frames] at h

theorem exit_of_frames_eq {t : SymbolTable} {f g : Frame} {fs : List Frame}
    (h : t.frames = f :: g :: fs) : t.exit = ⟨g, fs, t.archive ++ [f]⟩ := by
  obtain ⟨innermost, enclosing, archive⟩ := t
  obtain ⟨rfl, rfl⟩ := List.cons.inj h
  rfl

theorem snapshot_of_frames_eq {t : SymbolTable} {f : Frame} {fs : List Frame}
    (h : t.frames = fs ++ [f]) : t.snapshot = ⟨f, t.archive, fs.reverse⟩ := by
  have hlast : t.frames.getLast? = some f := by rw [h, List.getLast?_concat]
  have houter : t.enclosing.getLast?.getD t.innermost = f := by
    rw [frames, List.getLast?_cons] at hlast
    exact Option.some.inj hlast
  rw [snapshot, houter, h, List.dropLast_concat]

end SymbolTable

end BlockLang
