/-! # Frames

A *frame* holds the names of one block with their labels, in the order in which the names were
first added. Adding a name again replaces its label and keeps its place. -/

namespace BlockLang

/-- The names of a block and their labels. -/
structure Frame where
  entries : List (String × String) := []
  deriving DecidableEq, Repr

namespace Frame

/-- The names of a frame, in their order. -/
def names (f : Frame) : List String := f.entries.map Prod.fst

/-- The number of names. -/
def size (f : Frame) : Nat := f.entries.length

/-- Whether a frame has a name. -/
def contains (f : Frame) (name : String) : Bool := f.names.contains name

/-- The label of a name. -/
def label? (f : Frame) (name : String) : Option String := f.entries.lookup name

/-- Replaces the label of a name, or adds the name at the end. -/
def insertEntry (name label : String) : List (String × String) → List (String × String)
  | [] => [(name, label)]
  | e :: rest => if e.1 = name then (name, label) :: rest else e :: insertEntry name label rest

/-- Labels a name. -/
def insert (f : Frame) (name label : String) : Frame := ⟨insertEntry name label f.entries⟩

/-- The frame with some labels, given one after the other. -/
def ofList (entries : List (String × String)) : Frame :=
  entries.foldl (fun f e => f.insert e.1 e.2) {}

theorem insertEntry_of_notMem {name label : String} :
    ∀ {es : List (String × String)}, name ∉ es.map Prod.fst →
      insertEntry name label es = es ++ [(name, label)]
  | [], _ => rfl
  | e :: es, h => by
    rw [List.map_cons, List.mem_cons, not_or] at h
    rw [insertEntry, if_neg (fun he => h.1 he.symm), insertEntry_of_notMem h.2, List.cons_append]

/-- **A new name goes to the end.** -/
theorem entries_insert_of_notMem {f : Frame} {name label : String} (h : name ∉ f.names) :
    (f.insert name label).entries = f.entries ++ [(name, label)] := insertEntry_of_notMem h

theorem contains_iff {f : Frame} {name : String} : f.contains name ↔ name ∈ f.names :=
  List.contains_iff_mem

end Frame

end BlockLang
