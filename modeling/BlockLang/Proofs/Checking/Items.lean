import BlockLang.Proofs.Text.Splitting
import BlockLang.Statement
import Mathlib.Data.List.TakeWhile

/-! # The items of a token list

How a token list is cut into statements, as a relation and not as a function.

* `Body.Ends`: a body is followed by a rest. It takes the sign `=` if there is one, and everything
  up to the next semicolon or to the end.
* `Items`: the statements of a token list, one constructor per form.
* `items_iff`: the function `statements` is this relation, so every token list has its items and no
  others. -/

namespace BlockLang

/-! ### Bodies -/

/-- A body takes as much as it can of the tokens, and the rest comes after it. -/
structure Body.Ends (b : Body) (rest : List Token) : Prop where
  assign : ∀ t ∈ b.assign, t.isAssign = true
  no_assign : b.assign = none → ∀ t ∈ b.value.head?, t.isAssign = false
  value : ∀ t ∈ b.value, t.kind ≠ .semicolon
  semicolon : ∀ t ∈ b.semicolon, t.kind = .semicolon
  no_semicolon : b.semicolon = none → rest = []

namespace Body

theorem isAssign_of_semicolon {t : Token} (h : t.kind = .semicolon) : t.isAssign = false := by
  rw [Token.isAssign, h]; rfl

theorem cutAssign_of_ends {b : Body} {rest : List Token} (h : b.Ends rest) :
    cutAssign (b.tokens ++ rest) = (b.assign, b.value ++ (b.semicolon.toList ++ rest)) := by
  rw [Body.tokens, List.append_assoc, List.append_assoc]
  rcases ha : b.assign with _ | t
  · have hnext : ∀ t ∈ (b.value ++ (b.semicolon.toList ++ rest)).head?, t.isAssign = false := by
      rcases hv : b.value with _ | ⟨u, value⟩
      · rcases hs : b.semicolon with _ | s
        · rw [h.no_semicolon hs]; intro t ht; cases ht
        · intro t ht; cases ht; exact isAssign_of_semicolon (h.semicolon s hs)
      · intro t ht
        exact h.no_assign ha t (by rw [hv]; exact ht)
    rw [Option.toList_none, List.nil_append]
    rcases he : b.value ++ (b.semicolon.toList ++ rest) with _ | ⟨t, tail⟩
    · rfl
    · rw [cutAssign, hnext t (by rw [he]; rfl)]; rfl
  · rw [Option.toList_some, List.singleton_append, cutAssign, h.assign t ha]; rfl

theorem kind_of_head?_of_ends {b : Body} {rest : List Token} (h : b.Ends rest) :
    ∀ t ∈ (b.semicolon.toList ++ rest).head?, decide (t.kind ≠ .semicolon) = false := by
  rcases hs : b.semicolon with _ | s
  · rw [h.no_semicolon hs]
    intro t ht
    cases ht
  · intro t ht
    cases ht
    simp [h.semicolon s hs]

theorem takeWhile_of_ends {b : Body} {rest : List Token} (h : b.Ends rest) :
    (b.value ++ (b.semicolon.toList ++ rest)).takeWhile (·.kind ≠ .semicolon) = b.value :=
  takeWhile_append_of_stop (fun t ht => decide_eq_true (h.value t ht)) (kind_of_head?_of_ends h)

theorem dropWhile_of_ends {b : Body} {rest : List Token} (h : b.Ends rest) :
    (b.value ++ (b.semicolon.toList ++ rest)).dropWhile (·.kind ≠ .semicolon) =
      b.semicolon.toList ++ rest :=
  dropWhile_append_of_stop (fun t ht => decide_eq_true (h.value t ht)) (kind_of_head?_of_ends h)

theorem cut_of_ends {b : Body} {rest : List Token} (h : b.Ends rest) :
    cut (b.tokens ++ rest) = (b, rest) := by
  rw [cut, cutAssign_of_ends h]
  dsimp only
  rw [takeWhile_of_ends h, dropWhile_of_ends h]
  obtain ⟨assign, value, semicolon⟩ := b
  cases semicolon with
  | none => rw [h.no_semicolon rfl]; rfl
  | some s => rfl

theorem cutAssign_spec (tokens : List Token) :
    (∀ t ∈ (cutAssign tokens).1, t.isAssign = true) ∧
      ((cutAssign tokens).1 = none → ∀ t ∈ (cutAssign tokens).2.head?, t.isAssign = false) := by
  rcases tokens with _ | ⟨t, rest⟩
  · exact ⟨fun t ht => (by cases ht), fun _ t ht => (by cases ht)⟩
  · rw [cutAssign]
    split
    · next h =>
      refine ⟨fun u hu => ?_, fun hn => (by cases hn)⟩
      cases hu
      exact h
    · next h =>
      refine ⟨fun u hu => (by cases hu), fun _ u hu => ?_⟩
      cases hu
      exact Bool.eq_false_iff.mpr h

theorem ends_cut (tokens : List Token) : (cut tokens).1.Ends (cut tokens).2 := by
  obtain ⟨ha, hn⟩ := cutAssign_spec tokens
  have hval : ∀ t ∈ (cutAssign tokens).2.takeWhile (·.kind ≠ .semicolon),
      t.kind ≠ .semicolon := by
    intro t ht
    have hp := List.mem_takeWhile_imp ht
    exact of_decide_eq_true hp
  have hhead : ∀ t ∈ ((cutAssign tokens).2.takeWhile (·.kind ≠ .semicolon)).head?,
      t ∈ (cutAssign tokens).2.head? := by
    rcases (cutAssign tokens).2 with _ | ⟨u, rest⟩
    · exact fun t ht => ht
    · intro t ht
      rw [List.takeWhile_cons] at ht
      split at ht
      · exact ht
      · cases ht
  unfold cut
  dsimp only
  split
  · exact ⟨ha, fun h t ht => hn h t (hhead t ht), hval, fun t ht => (by cases ht), fun _ => rfl⟩
  · next s rest hd =>
    refine ⟨ha, fun h t ht => hn h t (hhead t ht), hval, fun t ht => ?_, fun h => (by cases h)⟩
    cases ht
    have hs := List.head?_dropWhile_not (fun t : Token => decide (t.kind ≠ .semicolon))
      (cutAssign tokens).2
    rw [hd] at hs
    simpa using hs

end Body

/-! ### Items -/

/-- **The items of some tokens.** -/
inductive Items : List Token → List Statement → Prop
  | nil : Items [] []
  | openBlock {brace : Token} {rest : List Token} {sts : List Statement} :
      brace.kind = .openBrace → Items rest sts → Items (brace :: rest) (.openBlock brace :: sts)
  | closeBlock {brace : Token} {rest : List Token} {sts : List Statement} :
      brace.kind = .closeBrace → Items rest sts → Items (brace :: rest) (.closeBlock brace :: sts)
  | declaration {type name : Token} {body : Body} {rest : List Token} {sts : List Statement} :
      type.isTypeKeyword = true → name.kind = .identifier → body.Ends rest → Items rest sts →
      Items (type :: name :: (body.tokens ++ rest)) (.declaration type name body :: sts)
  | loneType {type : Token} {rest : List Token} {sts : List Statement} :
      type.isTypeKeyword = true → (∀ t ∈ rest.head?, t.kind ≠ .identifier) → Items rest sts →
      Items (type :: rest) (.loneType type :: sts)
  | assignment {name : Token} {body : Body} {rest : List Token} {sts : List Statement} :
      name.kind = .identifier → body.Ends rest → Items rest sts →
      Items (name :: (body.tokens ++ rest)) (.assignment name body :: sts)
  | other {t : Token} {rest : List Token} {sts : List Statement} :
      t.kind ≠ .openBrace → t.kind ≠ .closeBrace → t.kind ≠ .identifier →
      t.isTypeKeyword = false → Items rest sts → Items (t :: rest) (.other t :: sts)

theorem kind_of_isTypeKeyword {t : Token} (h : t.isTypeKeyword = true) : t.kind = .keyword := by
  rw [Token.isTypeKeyword, decide_eq_true_eq] at h; exact h.1

theorem isTypeKeyword_of_kind_ne {t : Token} (h : t.kind ≠ .keyword) : t.isTypeKeyword = false :=
  Bool.eq_false_iff.mpr fun ht => h (kind_of_isTypeKeyword ht)

/-- **The function gives the items.** -/
theorem items_statements (tokens : List Token) : Items tokens (statements tokens) := by
  fun_induction statements tokens with
  | case1 => exact .nil
  | case2 t rest ih =>
    revert ih
    unfold Statement.cut
    split
    · next h => exact .openBlock h
    split
    · next h => exact .closeBlock h
    split
    · next h =>
      rcases rest with _ | ⟨name, rest⟩
      · exact .loneType h fun u hu => (by cases hu)
      · rw [Statement.cutDeclaration]
        split
        · next hn =>
          intro ih
          have hd := Items.declaration h hn (Body.ends_cut rest) ih
          rw [Body.tokens_cut] at hd
          exact hd
        · next hn =>
          refine .loneType h fun u hu => ?_
          cases hu
          exact hn
    split
    · next h =>
      intro ih
      have ha := Items.assignment h (Body.ends_cut rest) ih
      rw [Body.tokens_cut] at ha
      exact ha
    · next ho hc ht hi => exact .other ho hc hi (Bool.eq_false_iff.mpr ht)

theorem Items.eq_statements {tokens : List Token} {sts : List Statement} (h : Items tokens sts) :
    sts = statements tokens := by
  induction h with
  | nil => rw [statements]
  | openBlock hb _ ih => rw [statements, Statement.cut, if_pos hb, ih]
  | closeBlock hb _ ih => rw [statements, Statement.cut, hb, if_neg (by decide), if_pos rfl, ih]
  | declaration ht hn hb _ ih =>
    have hk := kind_of_isTypeKeyword ht
    rw [statements, Statement.cut, hk, if_neg (by decide), if_neg (by decide), if_pos ht,
      Statement.cutDeclaration, if_pos hn, Body.cut_of_ends hb, ih]
  | @loneType type rest _ ht hn _ ih =>
    have hk := kind_of_isTypeKeyword ht
    have hcut : Statement.cutDeclaration type rest = (.loneType type, rest) := by
      rcases rest with _ | ⟨name, rest⟩
      · rfl
      · rw [Statement.cutDeclaration, if_neg (hn name rfl)]
    rw [statements, Statement.cut, hk, if_neg (by decide), if_neg (by decide), if_pos ht, hcut, ih]
  | assignment hn hb _ ih =>
    have ht := isTypeKeyword_of_kind_ne (by rw [hn]; decide)
    rw [statements, Statement.cut, hn, if_neg (by decide), if_neg (by decide), ht,
      if_neg Bool.false_ne_true, if_pos rfl, Body.cut_of_ends hb, ih]
  | other ho hc hi ht _ ih =>
    rw [statements, Statement.cut, if_neg ho, if_neg hc, ht, if_neg Bool.false_ne_true, if_neg hi,
      ih]

/-- **Every token list has its items and no others.** -/
theorem items_iff {tokens : List Token} {sts : List Statement} :
    Items tokens sts ↔ sts = statements tokens :=
  ⟨Items.eq_statements, fun h => h ▸ items_statements tokens⟩

/-- The type of a statement is a type keyword, and its name is an identifier. -/
def Statement.IsFormed : Statement → Prop
  | declaration type name _ => type.isTypeKeyword = true ∧ name.kind = .identifier
  | loneType type => type.isTypeKeyword = true
  | assignment name _ => name.kind = .identifier
  | openBlock _ | closeBlock _ | other _ => True

theorem Items.isFormed {tokens : List Token} {sts : List Statement} (h : Items tokens sts) :
    ∀ st ∈ sts, st.IsFormed := by
  induction h with
  | nil => exact fun _ hm => absurd hm List.not_mem_nil
  | openBlock _ _ ih | closeBlock _ _ ih | other _ _ _ _ _ ih =>
    exact List.forall_mem_cons.mpr ⟨trivial, ih⟩
  | declaration ht hn _ _ ih => exact List.forall_mem_cons.mpr ⟨⟨ht, hn⟩, ih⟩
  | loneType ht _ _ ih => exact List.forall_mem_cons.mpr ⟨ht, ih⟩
  | assignment hn _ _ ih => exact List.forall_mem_cons.mpr ⟨hn, ih⟩

theorem Items.name_of_declaration {tokens : List Token} {sts : List Statement}
    (h : Items tokens sts) {type name : Token} {body : Body}
    (hm : .declaration type name body ∈ sts) : name ∈ tokens ∧ name.kind = .identifier := by
  induction h with
  | nil => cases hm
  | openBlock _ _ ih | closeBlock _ _ ih | loneType _ _ _ ih | other _ _ _ _ _ ih =>
    rcases List.mem_cons.mp hm with hm | hm
    · cases hm
    · exact ⟨List.mem_cons_of_mem _ (ih hm).1, (ih hm).2⟩
  | declaration _ hn _ _ ih =>
    rcases List.mem_cons.mp hm with hm | hm
    · cases hm
      exact ⟨by simp, hn⟩
    · exact ⟨by simp [(ih hm).1], (ih hm).2⟩
  | assignment _ _ _ ih =>
    rcases List.mem_cons.mp hm with hm | hm
    · cases hm
    · exact ⟨by simp [(ih hm).1], (ih hm).2⟩

end BlockLang
