import BlockLang.Checker
import Mathlib.Data.List.Forall2

/-! # The names in a symbol table

What a table says about names depends only on the names that its open frames have. `HasNames` tells
them frame by frame, and each operation of a check keeps it: `enter`, `exit` and `declare`. -/

namespace BlockLang

theorem Frame.contains_insert {f : Frame} {name label x : String} (h : f.contains name = false) :
    (f.insert name label).contains x = true ↔ f.contains x = true ∨ name = x := by
  have hn : name ∉ f.names := fun hm => by rw [Frame.contains_iff.mpr hm] at h; cases h
  rw [Frame.contains_iff, Frame.contains_iff, Frame.names, Frame.entries_insert_of_notMem hn,
    List.map_append, List.mem_append, List.map_singleton, List.mem_singleton, @eq_comm _ x]
  rfl

namespace SymbolTable

theorem enclosing_declare (t : SymbolTable) (type name : String) :
    (t.declare type name).enclosing = t.enclosing := by
  unfold SymbolTable.declare
  split <;> rfl

theorem contains_innermost_declare (t : SymbolTable) (type name : String) {x : String} :
    (t.declare type name).innermost.contains x = true ↔
      t.innermost.contains x = true ∨ name = x := by
  unfold SymbolTable.declare
  split
  · next h =>
    refine ⟨Or.inl, ?_⟩
    rintro (hx | rfl)
    · exact hx
    · exact h
  · next h => exact Frame.contains_insert (Bool.eq_false_iff.mpr h)

/-- **The open frames of a table**, innermost first, stand for the members of a list and have the
names that a relation tells of them. -/
def HasNames {α : Type} (P : α → String → Prop) (as : List α) (t : SymbolTable) : Prop :=
  List.Forall₂ (fun a f => ∀ x, f.contains x = true ↔ P a x) as t.frames

namespace HasNames

variable {α : Type} {P Q : α → String → Prop} {a a' b : α} {as : List α} {t : SymbolTable}

theorem empty (hP : ∀ x, ¬ P a x) : HasNames P [a] {} :=
  .cons (fun x => iff_of_false Bool.false_ne_true (hP x)) .nil

theorem congr (h : HasNames P as t) (hPQ : ∀ b ∈ as, ∀ x, Q b x ↔ P b x) : HasNames Q as t := by
  have hall := (List.forall₂_and_left _ _).mpr ⟨hPQ, h⟩
  exact hall.imp fun _ _ hbf x => (hbf.2 x).trans (hbf.1 x).symm

theorem isVisible_iff (h : HasNames P as t) (x : String) :
    t.isVisible x = true ↔ ∃ a ∈ as, P a x := by
  rw [isVisible, List.any_eq_true]
  unfold HasNames at h
  generalize t.frames = fs at h
  induction h with
  | nil => simp
  | cons haf _ ih =>
    simp only [List.mem_cons, exists_eq_or_imp]
    rw [haf x, ih]

theorem existsHere_iff (h : HasNames P (a :: as) t) (x : String) :
    t.existsHere x = true ↔ P a x := (List.forall₂_cons.mp h).1 x

theorem enter (h : HasNames P as t) (hP : ∀ x, ¬ P a x) : HasNames P (a :: as) t.enter :=
  .cons (fun x => iff_of_false Bool.false_ne_true (hP x)) h

theorem exit (h : HasNames P (a :: b :: as) t) : HasNames P (b :: as) t.exit := by
  obtain ⟨innermost, _ | ⟨f, fs⟩, archive⟩ := t
  · exact absurd h.length_eq (by simp [frames])
  · exact (List.forall₂_cons.mp h).2

theorem declare (h : HasNames P (a :: as) t) {type name : String}
    (hinner : ∀ x, Q a' x ↔ P a x ∨ name = x) (houter : ∀ b ∈ as, ∀ x, Q b x ↔ P b x) :
    HasNames Q (a' :: as) (t.declare type name) := by
  obtain ⟨hf, hfs⟩ := List.forall₂_cons.mp h
  have hall := (List.forall₂_and_left _ _).mpr ⟨houter, hfs⟩
  show List.Forall₂ _ _ ((t.declare type name).innermost :: (t.declare type name).enclosing)
  rw [enclosing_declare]
  refine .cons (fun x => ?_) (hall.imp fun _ _ hbf x => (hbf.2 x).trans (hbf.1 x).symm)
  rw [contains_innermost_declare, hf x, hinner]

end HasNames

end SymbolTable

namespace CheckState

theorem run_append (s : CheckState) (sts sts' : List Statement) :
    s.run (sts ++ sts') = (s.run sts).run sts' := List.foldl_append

theorem reportAll_append (s : CheckState) (sts sts' : List Statement) :
    s.reportAll (sts ++ sts') = s.reportAll sts ++ (s.run sts).reportAll sts' := by
  induction sts generalizing s with
  | nil => rfl
  | cons st sts ih => rw [List.cons_append, reportAll, reportAll, ih, List.append_assoc]; rfl

theorem traceAll_append (s : CheckState) (sts sts' : List Statement) :
    s.traceAll (sts ++ sts') = s.traceAll sts ++ (s.run sts).traceAll sts' := by
  induction sts generalizing s with
  | nil => rfl
  | cons st sts ih => rw [List.cons_append, traceAll, traceAll, ih, List.append_assoc]; rfl

end CheckState

end BlockLang
