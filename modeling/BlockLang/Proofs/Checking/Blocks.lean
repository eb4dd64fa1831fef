import BlockLang.Statement
import Mathlib.Data.List.Basic

/-! # Open blocks by position

Which blocks are open after some statements, told by positions and counts of braces, without a
stack. A block is named by the position of its opening brace.

* `IsOpen`: a block is open as long as the closing braces after its opening brace have not
  outnumbered the opening ones.
* `IsInnermost`: the open block that was opened last, or none.
* `OpenStack`: the open blocks as a stack, innermost first. An opening brace pushes a block, a
  closing one drops the innermost block if there is one, and no other statement counts
  (`OpenStack.concat_open`, `OpenStack.concat_close`, `OpenStack.concat_other`). The invariant is
  that as many braces stand unmatched after an open block as blocks are open inside it. -/

namespace BlockLang

namespace Statement

/-- An opening brace. -/
def isOpening : Statement → Bool
  | .openBlock _ => true
  | _ => false

/-- A closing brace. -/
def isClosing : Statement → Bool
  | .closeBlock _ => true
  | _ => false

end Statement

open Statement

/-- **The block that starts at position `p` is open** after some statements. -/
structure IsOpen (sts : List Statement) (p : Nat) : Prop where
  brace : ∃ t, sts[p]? = some (.openBlock t)
  unclosed : ∀ l, l <+: sts.drop (p + 1) → l.countP isClosing ≤ l.countP isOpening

/-- The innermost open block after some statements, or none if no block is open. -/
def IsInnermost (sts : List Statement) (b : Option Nat) : Prop :=
  (∀ p ∈ b, IsOpen sts p) ∧ ∀ q, IsOpen sts q → ∃ p ∈ b, q ≤ p

variable {sts : List Statement} {st : Statement} {p : Nat} {ps : List Nat}

theorem IsOpen.lt_length (h : IsOpen sts p) : p < sts.length := by
  obtain ⟨t, ht⟩ := h.brace
  exact (List.getElem?_eq_some_iff.mp ht).1

/-- One more statement leaves a block open if it does not close it, and opens a block if it is an
opening brace. -/
theorem isOpen_concat_iff : IsOpen (sts ++ [st]) p ↔
    (p = sts.length ∧ ∃ t, st = .openBlock t) ∨
      (IsOpen sts p ∧ (sts.drop (p + 1) ++ [st]).countP isClosing ≤
        (sts.drop (p + 1) ++ [st]).countP isOpening) := by
  rcases Nat.lt_trichotomy p sts.length with hp | rfl | hp
  · have hdrop : (sts ++ [st]).drop (p + 1) = sts.drop (p + 1) ++ [st] :=
      List.drop_append_of_le_length hp
    have hget : (sts ++ [st])[p]? = sts[p]? := List.getElem?_append_left hp
    constructor
    · rintro ⟨hb, hu⟩
      rw [hget] at hb
      rw [hdrop] at hu
      exact Or.inr ⟨⟨hb, fun l hl => hu l (hl.trans (List.prefix_append _ _))⟩,
        hu _ (List.prefix_refl _)⟩
    · rintro (⟨h, -⟩ | ⟨h, hc⟩)
      · omega
      · refine ⟨by rw [hget]; exact h.brace, fun l hl => ?_⟩
        rw [hdrop] at hl
        rcases List.prefix_concat_iff.mp hl with rfl | hl
        · exact hc
        · exact h.unclosed l hl
  · have hget : (sts ++ [st])[sts.length]? = some st := List.getElem?_concat_length
    have hdrop : (sts ++ [st]).drop (sts.length + 1) = [] := by simp
    constructor
    · rintro ⟨⟨t, ht⟩, -⟩
      rw [hget] at ht
      exact Or.inl ⟨rfl, t, Option.some.inj ht⟩
    · rintro (⟨-, t, rfl⟩ | ⟨h, -⟩)
      · refine ⟨⟨t, hget⟩, fun l hl => ?_⟩
        rw [hdrop, List.prefix_nil] at hl
        rw [hl]; exact Nat.le_refl _
      · exact absurd h.lt_length (Nat.lt_irrefl _)
  · refine iff_of_false (fun h => ?_) ?_
    · have := h.lt_length
      rw [List.length_append, List.length_singleton] at this
      omega
    · rintro (⟨h, -⟩ | ⟨h, -⟩)
      · omega
      · have := h.lt_length; omega

/-! ### The stack -/

/-- **The open blocks after some statements**, innermost first. Behind a block the opening braces
are more than the closing ones by the number of blocks that are open inside it. -/
structure OpenStack (sts : List Statement) (ps : List Nat) : Prop where
  mem_iff : ∀ p, p ∈ ps ↔ IsOpen sts p
  sorted : ps.Pairwise (· > ·)
  count : ∀ k p, ps[k]? = some p →
    (sts.drop (p + 1)).countP isOpening = (sts.drop (p + 1)).countP isClosing + k

namespace OpenStack

theorem nil : OpenStack [] [] := by
  refine ⟨fun p => ?_, List.Pairwise.nil, fun k p h => by simp at h⟩
  refine iff_of_false (List.not_mem_nil) fun h => ?_
  have := h.lt_length
  simp at this

theorem drop_concat (h : OpenStack sts ps) (hp : p ∈ ps) (st : Statement) :
    (sts ++ [st]).drop (p + 1) = sts.drop (p + 1) ++ [st] :=
  List.drop_append_of_le_length ((h.mem_iff p).mp hp).lt_length

theorem mem_of_getElem? {k : Nat} (h : ps[k]? = some p) : p ∈ ps := List.mem_of_getElem? h

theorem concat_other (h : OpenStack sts ps) (ho : st.isOpening = false)
    (hc : st.isClosing = false) : OpenStack (sts ++ [st]) ps := by
  refine ⟨fun p => ?_, h.sorted, fun k p hk => ?_⟩
  · rw [isOpen_concat_iff, h.mem_iff]
    constructor
    · intro hp
      refine Or.inr ⟨hp, ?_⟩
      have := hp.unclosed _ (List.prefix_refl _)
      simpa [List.countP_append, ho, hc] using this
    · rintro (⟨-, t, rfl⟩ | ⟨hp, -⟩)
      · cases ho
      · exact hp
  · rw [h.drop_concat (mem_of_getElem? hk), List.countP_append, List.countP_append, h.count k p hk]
    simp [ho, hc]

theorem concat_open (h : OpenStack sts ps) (t : Token) :
    OpenStack (sts ++ [.openBlock t]) (sts.length :: ps) := by
  refine ⟨fun p => ?_, ?_, fun k p hk => ?_⟩
  · rw [isOpen_concat_iff, List.mem_cons, h.mem_iff]
    constructor
    · rintro (rfl | hp)
      · exact Or.inl ⟨rfl, t, rfl⟩
      · refine Or.inr ⟨hp, ?_⟩
        have := hp.unclosed _ (List.prefix_refl _)
        rw [List.countP_append, List.countP_append]
        simp only [List.countP_singleton, isClosing, isOpening]
        simp only [Bool.false_eq_true, if_false, if_true]
        omega
    · rintro (⟨rfl, -⟩ | ⟨hp, -⟩)
      · exact Or.inl rfl
      · exact Or.inr hp
  · rw [List.pairwise_cons]
    exact ⟨fun p hp => ((h.mem_iff p).mp hp).lt_length, h.sorted⟩
  · cases k with
    | zero =>
      obtain rfl : sts.length = p := Option.some.inj hk
      simp
    | succ k =>
      have hk' : ps[k]? = some p := hk
      rw [h.drop_concat (mem_of_getElem? hk'), List.countP_append, List.countP_append,
        h.count k p hk']
      simp [isClosing, isOpening]
      omega

theorem concat_close (h : OpenStack sts ps) (t : Token) :
    OpenStack (sts ++ [.closeBlock t]) ps.tail := by
  have hcond : ∀ k p, ps[k]? = some p →
      ((sts.drop (p + 1) ++ [Statement.closeBlock t]).countP isClosing ≤
        (sts.drop (p + 1) ++ [Statement.closeBlock t]).countP isOpening ↔ k ≠ 0) := by
    intro k p hk
    rw [List.countP_append, List.countP_append, h.count k p hk]
    simp [isClosing, isOpening]
    omega
  refine ⟨fun p => ?_, h.sorted.tail, fun k p hk => ?_⟩
  · rw [isOpen_concat_iff]
    constructor
    · intro hp
      obtain ⟨k, hk⟩ := List.getElem?_of_mem hp
      rw [List.getElem?_tail] at hk
      exact Or.inr ⟨(h.mem_iff p).mp (mem_of_getElem? hk),
        (hcond (k + 1) p hk).mpr (Nat.succ_ne_zero k)⟩
    · rintro (⟨-, u, hu⟩ | ⟨hp, hc⟩)
      · cases hu
      · obtain ⟨k, hk⟩ := List.getElem?_of_mem ((h.mem_iff p).mpr hp)
        obtain ⟨k, rfl⟩ := Nat.exists_eq_succ_of_ne_zero ((hcond k p hk).mp hc)
        exact mem_of_getElem? (k := k) (by rw [List.getElem?_tail]; exact hk)
  · rw [List.getElem?_tail] at hk
    rw [h.drop_concat (mem_of_getElem? hk), List.countP_append, List.countP_append,
      h.count (k + 1) p hk]
    simp [isClosing, isOpening]
    omega

theorem isInnermost_iff (h : OpenStack sts ps) {b : Option Nat} :
    IsInnermost sts b ↔ b = ps.head? := by
  unfold IsInnermost
  simp only [← h.mem_iff]
  rcases ps with _ | ⟨p, ps⟩
  · constructor
    · rintro ⟨hb, -⟩
      rcases b with _ | q
      · rfl
      · exact absurd (hb q rfl) List.not_mem_nil
    · rintro rfl
      exact ⟨fun p hp => (by cases hp), fun q hq => absurd hq List.not_mem_nil⟩
  · have hle : ∀ q ∈ p :: ps, q ≤ p := by
      intro q hq
      rcases List.mem_cons.mp hq with rfl | hq
      · exact Nat.le_refl _
      · exact Nat.le_of_lt ((List.pairwise_cons.mp h.sorted).1 q hq)
    constructor
    · rintro ⟨hb, hmax⟩
      obtain ⟨q, rfl, hq⟩ := hmax p List.mem_cons_self
      rw [Nat.le_antisymm (hle q (hb q rfl)) hq]
      rfl
    · rintro rfl
      refine ⟨fun q hq => ?_, fun q hq => ⟨p, rfl, hle q hq⟩⟩
      cases hq
      exact List.mem_cons_self

theorem eq_filter (h : OpenStack sts ps) [DecidablePred (IsOpen sts)] :
    (List.range sts.length).reverse.filter (IsOpen sts) = ps := by
  have hsorted : ((List.range sts.length).reverse.filter (IsOpen sts)).Pairwise (· > ·) :=
    (List.pairwise_reverse.mpr List.pairwise_lt_range).filter _
  refine List.Perm.eq_of_pairwise (fun a b _ _ hab hba => ?_) hsorted h.sorted ?_
  · exact absurd hab (Nat.lt_asymm hba)
  · rw [List.perm_ext_iff_of_nodup (hsorted.imp fun hab => Nat.ne_of_gt hab)
      (h.sorted.imp fun hab => Nat.ne_of_gt hab)]
    intro p
    rw [h.mem_iff, List.mem_filter, List.mem_reverse, List.mem_range, decide_eq_true_eq]
    exact and_iff_right_of_imp IsOpen.lt_length

end OpenStack

end BlockLang
