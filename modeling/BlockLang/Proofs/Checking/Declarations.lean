import BlockLang.Proofs.Checking.Reference
import Mathlib.Data.List.Nodup

/-! # Blocks and declarations by position

Which blocks some statements close, which they leave open, and what is declared in each of them,
told by positions and without a symbol table.

* `openBlocks`: the blocks that are open at the end, innermost first.
* `Closes`: a statement closes a block. `closedBlocks` are the blocks that are closed, in the order
  of the braces that close them (`closingBraces`, `forall₂_closes`). No block is closed twice
  (`nodup_closedBlocks`), and every block is either open or closed (`mem_closedBlocks_iff`).
* `firstDeclarations`: the names declared directly in a block, each where it is declared first and
  with the label that it has from there (`mem_names_firstDeclarations`,
  `nodup_names_firstDeclarations`).

Each of the three lists is told for one more statement (`openBlocks_concat_open`,
`closedBlocks_concat_close`, `firstDeclarations_concat_declaration` and their companions). -/

namespace BlockLang

open Classical in
/-- The blocks that are open after some statements, innermost first. -/
noncomputable def openBlocks (sts : List Statement) : List Nat :=
  (List.range sts.length).reverse.filter (IsOpen sts)

/-- **Statement `q` closes the block that starts at position `p`**: it is a closing brace, and the
block is the innermost open one before it. -/
def Closes (sts : List Statement) (p q : Nat) : Prop :=
  (∃ brace, sts[q]? = some (.closeBlock brace)) ∧ IsInnermost (sts.take q) (some p)

open Classical in
/-- The closing braces that close a block. -/
noncomputable def closingBraces (sts : List Statement) : List Nat :=
  (List.range sts.length).filter fun q => ∃ p, Closes sts p q

open Classical in
/-- The blocks that are closed, in the order of their closing braces. -/
noncomputable def closedBlocks (sts : List Statement) : List Nat :=
  (List.range sts.length).flatMap fun q => (List.range q).filter fun p => Closes sts p q

open Classical in
/-- The name that statement `j` is the first to declare directly in a block, with its label: the
type that is written there, and a suffix. -/
noncomputable def entryAt (suffix : String) (sts : List Statement) (b : Option Nat) (j : Nat) :
    Option (String × String) :=
  match sts[j]? with
  | some (.declaration type name _) =>
    if IsInnermost (sts.take j) b ∧ ¬ DeclaredIn (sts.take j) b name.lexeme then
      some (name.lexeme, type.lexeme ++ suffix)
    else none
  | _ => none

/-- **The names declared directly in a block**, in the order of their first declarations there. -/
noncomputable def firstDeclarations (suffix : String) (sts : List Statement) (b : Option Nat) :
    List (String × String) :=
  (List.range sts.length).filterMap (entryAt suffix sts b)

variable {sts : List Statement} {st : Statement} {ps : List Nat} {p q : Nat}

/-! ### Open blocks -/

theorem openStack_openBlocks (sts : List Statement) : OpenStack sts (openBlocks sts) := by
  classical
  obtain ⟨ps, hm, -⟩ := exists_models sts
  have heq : openBlocks sts = ps := hm.stack.eq_filter
  rw [heq]
  exact hm.stack

theorem OpenStack.eq_openBlocks (h : OpenStack sts ps) : openBlocks sts = ps := by
  classical
  exact h.eq_filter

theorem mem_openBlocks_iff : p ∈ openBlocks sts ↔ IsOpen sts p :=
  (openStack_openBlocks sts).mem_iff p

theorem isInnermost_iff_head? {b : Option Nat} : IsInnermost sts b ↔ b = (openBlocks sts).head? :=
  (openStack_openBlocks sts).isInnermost_iff

theorem openBlocks_concat_open (sts : List Statement) (t : Token) :
    openBlocks (sts ++ [.openBlock t]) = sts.length :: openBlocks sts :=
  ((openStack_openBlocks sts).concat_open t).eq_openBlocks

theorem openBlocks_concat_close (sts : List Statement) (t : Token) :
    openBlocks (sts ++ [.closeBlock t]) = (openBlocks sts).tail :=
  ((openStack_openBlocks sts).concat_close t).eq_openBlocks

theorem openBlocks_concat_other (ho : st.isOpening = false) (hc : st.isClosing = false) :
    openBlocks (sts ++ [st]) = openBlocks sts :=
  ((openStack_openBlocks sts).concat_other ho hc).eq_openBlocks

/-! ### Closed blocks -/

theorem Closes.lt_length (h : Closes sts p q) : q < sts.length := by
  obtain ⟨⟨brace, hq⟩, -⟩ := h
  exact (List.getElem?_eq_some_iff.mp hq).1

theorem closes_concat_of_lt (hq : q < sts.length) : Closes (sts ++ [st]) p q ↔ Closes sts p q := by
  unfold Closes
  rw [List.getElem?_append_left hq, take_concat_of_le (Nat.le_of_lt hq)]

/-- One more closing brace closes the innermost block, if one is open. -/
theorem closes_concat_length :
    Closes (sts ++ [st]) p sts.length ↔ st.isClosing = true ∧ some p = (openBlocks sts).head? := by
  unfold Closes
  rw [List.getElem?_concat_length, take_concat_of_le (Nat.le_refl _), List.take_length,
    isInnermost_iff_head?]
  refine and_congr_left fun _ => ?_
  cases st <;> simp [Statement.isClosing]

theorem Closes.concat (h : Closes sts p q) (st : Statement) : Closes (sts ++ [st]) p q :=
  (closes_concat_of_lt h.lt_length).mpr h

open Classical in
theorem closingBraces_concat (sts : List Statement) (st : Statement) :
    closingBraces (sts ++ [st]) = closingBraces sts ++
      [sts.length].filter fun q => ∃ p, Closes (sts ++ [st]) p q := by
  rw [closingBraces, List.length_append, List.length_singleton, List.range_succ,
    List.filter_append, closingBraces]
  congr 1
  refine List.filter_congr fun q hq => ?_
  simp only [closes_concat_of_lt (List.mem_range.mp hq)]

open Classical in
theorem closedBlocks_concat (sts : List Statement) (st : Statement) :
    closedBlocks (sts ++ [st]) = closedBlocks sts ++
      (List.range sts.length).filter fun p => Closes (sts ++ [st]) p sts.length := by
  rw [closedBlocks, List.length_append, List.length_singleton, List.range_succ,
    List.flatMap_append, List.flatMap_singleton, closedBlocks]
  congr 1
  refine List.flatMap_congr fun q hq => List.filter_congr fun p _ => ?_
  simp only [closes_concat_of_lt (List.mem_range.mp hq)]

theorem closingBraces_concat_other (hc : st.isClosing = false) :
    closingBraces (sts ++ [st]) = closingBraces sts := by
  rw [closingBraces_concat]
  simp [closes_concat_length, hc]

theorem closedBlocks_concat_other (hc : st.isClosing = false) :
    closedBlocks (sts ++ [st]) = closedBlocks sts := by
  rw [closedBlocks_concat]
  simp [closes_concat_length, hc]

theorem closingBraces_concat_close (sts : List Statement) (t : Token) :
    closingBraces (sts ++ [.closeBlock t]) =
      closingBraces sts ++ (openBlocks sts).head?.toList.map fun _ => sts.length := by
  rw [closingBraces_concat]
  congr 1
  rcases hps : (openBlocks sts).head? with _ | p <;>
    simp [closes_concat_length, hps, Statement.isClosing]

/-- **A closing brace closes the innermost block**, if one is open. -/
theorem closedBlocks_concat_close (sts : List Statement) (t : Token) :
    closedBlocks (sts ++ [.closeBlock t]) = closedBlocks sts ++ (openBlocks sts).head?.toList := by
  rw [closedBlocks_concat]
  congr 1
  simp only [closes_concat_length, Statement.isClosing, true_and]
  rcases hps : (openBlocks sts).head? with _ | p
  · simp
  · have hp : p < sts.length := (mem_openBlocks_iff.mp (List.mem_of_head? hps)).lt_length
    simp only [Option.some.injEq, Option.toList_some]
    rw [List.filter_eq, List.count_eq_one_of_mem List.nodup_range (List.mem_range.mpr hp)]
    rfl

/-- **The closed blocks are those that the closing braces close**, one each. -/
theorem forall₂_closes (sts : List Statement) :
    List.Forall₂ (Closes sts) (closedBlocks sts) (closingBraces sts) := by
  induction sts using List.reverseRecOn with
  | nil => exact .nil
  | append_singleton sts st ih =>
    have hmono := ih.imp fun _ _ h => h.concat st
    cases st with
    | closeBlock t =>
      rw [closedBlocks_concat_close, closingBraces_concat_close]
      refine List.rel_append hmono ?_
      rcases hps : (openBlocks sts).head? with _ | p
      · exact .nil
      · exact .cons (closes_concat_length.mpr ⟨rfl, hps.symm⟩) .nil
    | _ => rw [closedBlocks_concat_other rfl, closingBraces_concat_other rfl]; exact hmono

theorem getElem?_concat_eq_open_iff :
    (∃ t, (sts ++ [st])[p]? = some (.openBlock t)) ↔
      (∃ t, sts[p]? = some (.openBlock t)) ∨ (p = sts.length ∧ ∃ t, st = .openBlock t) := by
  rcases Nat.lt_trichotomy p sts.length with hp | rfl | hp
  · rw [List.getElem?_append_left hp]
    exact (or_iff_left fun h => by omega).symm
  · simp
  · rw [List.getElem?_eq_none (by simp; omega), List.getElem?_eq_none (by omega)]
    simp; omega

/-- **Every block is either closed or open.** -/
theorem mem_closedBlocks_iff : p ∈ closedBlocks sts ↔
    (∃ t, sts[p]? = some (.openBlock t)) ∧ p ∉ openBlocks sts := by
  induction sts using List.reverseRecOn with
  | nil => simp [closedBlocks]
  | append_singleton sts st ih =>
    have hlt : (∃ t, sts[p]? = some (.openBlock t)) → p ≠ sts.length := by
      rintro ⟨t, ht⟩ rfl
      rw [List.getElem?_eq_none (Nat.le_refl _)] at ht
      cases ht
    rw [getElem?_concat_eq_open_iff]
    cases st with
    | openBlock t =>
      rw [closedBlocks_concat_other rfl, openBlocks_concat_open, List.mem_cons, ih]
      grind
    | closeBlock t =>
      have hopen : p ∈ openBlocks sts → ∃ t, sts[p]? = some (.openBlock t) :=
        fun h => (mem_openBlocks_iff.mp h).brace
      have hsorted := (openStack_openBlocks sts).sorted
      rw [closedBlocks_concat_close, openBlocks_concat_close, List.mem_append, ih]
      rcases hps : openBlocks sts with _ | ⟨p', ps⟩
      · simp
      · rw [hps, List.pairwise_cons] at hsorted
        rw [hps] at hopen
        have hp' : p' ∉ ps := fun h => Nat.lt_irrefl p' (hsorted.1 p' h)
        grind
    | _ =>
      rw [closedBlocks_concat_other rfl, openBlocks_concat_other rfl rfl, ih]
      simp

theorem nodup_closedBlocks (sts : List Statement) : (closedBlocks sts).Nodup := by
  induction sts using List.reverseRecOn with
  | nil => exact List.nodup_nil
  | append_singleton sts st ih =>
    cases st with
    | closeBlock t =>
      rw [closedBlocks_concat_close]
      rcases hps : (openBlocks sts).head? with _ | p
      · rw [Option.toList_none, List.append_nil]; exact ih
      · have hp : p ∉ closedBlocks sts :=
          fun h => (mem_closedBlocks_iff.mp h).2 (List.mem_of_head? hps)
        rw [Option.toList_some, ← List.concat_eq_append]
        exact ih.concat hp
    | _ => rw [closedBlocks_concat_other rfl]; exact ih

/-! ### Declarations -/

section Declarations
variable {suffix : String} {b : Option Nat} {x : String}

theorem entryAt_concat_of_lt {j : Nat} (hj : j < sts.length) :
    entryAt suffix (sts ++ [st]) b j = entryAt suffix sts b j := by
  rw [entryAt, List.getElem?_append_left hj, take_concat_of_le (Nat.le_of_lt hj), entryAt]

theorem firstDeclarations_concat (suffix : String) (sts : List Statement) (st : Statement)
    (b : Option Nat) : firstDeclarations suffix (sts ++ [st]) b =
      firstDeclarations suffix sts b ++ (entryAt suffix (sts ++ [st]) b sts.length).toList := by
  rw [firstDeclarations, List.length_append, List.length_singleton, List.range_succ,
    List.filterMap_append, firstDeclarations]
  congr 1
  exact List.filterMap_congr fun j hj => entryAt_concat_of_lt (List.mem_range.mp hj)

theorem firstDeclarations_concat_other (hd : ∀ type name body, st ≠ .declaration type name body) :
    firstDeclarations suffix (sts ++ [st]) b = firstDeclarations suffix sts b := by
  rw [firstDeclarations_concat, entryAt, List.getElem?_concat_length]
  cases st with
  | declaration type name body => exact absurd rfl (hd type name body)
  | _ => rw [Option.toList_none, List.append_nil]

open Classical in
/-- **A declaration counts in the innermost block**, and only if its name is new there. -/
theorem firstDeclarations_concat_declaration (type name : Token) (body : Body) :
    firstDeclarations suffix (sts ++ [.declaration type name body]) b =
      firstDeclarations suffix sts b ++
        if IsInnermost sts b ∧ ¬ DeclaredIn sts b name.lexeme then
          [(name.lexeme, type.lexeme ++ suffix)] else [] := by
  rw [firstDeclarations_concat, entryAt, List.getElem?_concat_length]
  dsimp only
  rw [take_concat_of_le (Nat.le_refl _), List.take_length]
  split <;> rfl

theorem exists_of_mem_firstDeclarations {e : String × String}
    (h : e ∈ firstDeclarations suffix sts b) : ∃ type name body,
      .declaration type name body ∈ sts ∧ e = (name.lexeme, type.lexeme ++ suffix) := by
  obtain ⟨j, -, hj⟩ := List.mem_filterMap.mp h
  rw [entryAt] at hj
  split at hj
  · rename_i type name body hst
    split at hj
    · exact ⟨type, name, body, List.mem_of_getElem? hst, (Option.some.inj hj).symm⟩
    · cases hj
  · cases hj

/-- **The names are those that are declared directly in the block.** -/
theorem mem_names_firstDeclarations :
    x ∈ (firstDeclarations suffix sts b).map Prod.fst ↔ DeclaredIn sts b x := by
  induction sts using List.reverseRecOn with
  | nil =>
    refine iff_of_false List.not_mem_nil ?_
    rintro ⟨j, hj, -⟩
    exact absurd hj.lt_length (Nat.not_lt_zero j)
  | append_singleton sts st ih =>
    cases st with
    | declaration type name body =>
      rw [firstDeclarations_concat_declaration, declaredIn_concat_declaration, List.map_append,
        List.mem_append, ih]
      by_cases hnew : IsInnermost sts b ∧ ¬ DeclaredIn sts b name.lexeme
      · rw [if_pos hnew, List.map_singleton, List.mem_singleton, and_iff_left hnew.1,
          @eq_comm _ x]
      · rw [if_neg hnew, List.map_nil]
        refine ⟨fun h => Or.inl (h.resolve_right List.not_mem_nil), ?_⟩
        rintro (h | ⟨rfl, hb⟩)
        · exact Or.inl h
        · exact Or.inl (not_not.mp fun hd => hnew ⟨hb, hd⟩)
    | _ =>
      rw [firstDeclarations_concat_other fun _ _ _ he => (by cases he), ih,
        declaredIn_concat_other fun _ _ _ he => (by cases he)]

theorem nodup_names_firstDeclarations (suffix : String) (sts : List Statement) (b : Option Nat) :
    ((firstDeclarations suffix sts b).map Prod.fst).Nodup := by
  induction sts using List.reverseRecOn with
  | nil => exact List.nodup_nil
  | append_singleton sts st ih =>
    cases st with
    | declaration type name body =>
      rw [firstDeclarations_concat_declaration]
      by_cases hnew : IsInnermost sts b ∧ ¬ DeclaredIn sts b name.lexeme
      · rw [if_pos hnew, List.map_append, List.map_singleton, ← List.concat_eq_append]
        exact ih.concat fun h => hnew.2 (mem_names_firstDeclarations.mp h)
      · rw [if_neg hnew, List.append_nil]; exact ih
    | _ => rw [firstDeclarations_concat_other fun _ _ _ he => (by cases he)]; exact ih

theorem firstDeclarations_eq_nil {n : Nat} (hn : sts.length ≤ n + 1) :
    firstDeclarations suffix sts (some n) = [] := by
  rw [← List.map_eq_nil_iff (f := Prod.fst), List.eq_nil_iff_forall_not_mem]
  intro x hx
  obtain ⟨j, hj, hb⟩ := mem_names_firstDeclarations.mp hx
  have hlt := hj.lt_length
  have hp := (hb.1 n rfl).lt_length
  rw [List.length_take] at hp
  omega

end Declarations

end BlockLang
