import Mathlib.Data.List.Basic

/-! # Splitting texts

A text that is put together from parts can be taken apart again if its parts tell where they end.

* `map_eq_of_map_eq`: what each member of a row tells is told by the whole row.
* `eq_of_append_cons_of_first`: a list is split in one way only at its first element of some kind, and
  so at the first and at the last occurrence of a sign (`eq_of_append_cons`,
  `eq_of_append_cons_of_last`).
* `Delimited`: words that tell where they end, in front of whatever can follow them. Numbers are such
  words where no digit follows (`delimited_number`).
* `Delimited.flatMap`: a row of such words tells its words. -/

namespace BlockLang

variable {α β : Type}

/-! ### Member by member -/

theorem map_eq_of_map_eq {γ : Type} {f : α → β} {g : α → γ} {xs xs' : List α}
    (h : ∀ x ∈ xs, ∀ x' ∈ xs', f x = f x' → g x = g x') (he : xs.map f = xs'.map f) :
    xs.map g = xs'.map g := by
  induction xs generalizing xs' with
  | nil => rw [List.map_eq_nil_iff.mp he.symm]
  | cons x xs ih =>
    cases xs' with
    | nil => cases he
    | cons x' xs' =>
      obtain ⟨hhead, htail⟩ := List.cons.inj he
      rw [List.map_cons, List.map_cons, h x List.mem_cons_self x' List.mem_cons_self hhead,
        ih (fun y hy y' hy' => h y (List.mem_cons_of_mem _ hy) y' (List.mem_cons_of_mem _ hy')) htail]

/-! ### At one place -/

/-- **The first element of some kind is told**, and what comes before it and after it. -/
theorem eq_of_append_cons_of_first {P : α → Prop} {before before' after after' : List α} {x x' : α}
    (h : ∀ y ∈ before, ¬ P y) (h' : ∀ y ∈ before', ¬ P y) (hx : P x) (hx' : P x')
    (he : before ++ x :: after = before' ++ x' :: after') :
    before = before' ∧ x = x' ∧ after = after' := by
  induction before generalizing before' with
  | nil =>
    cases before' with
    | nil =>
      obtain ⟨rfl, rfl⟩ := List.cons.inj he
      exact ⟨rfl, rfl, rfl⟩
    | cons y before' =>
      obtain ⟨rfl, -⟩ := List.cons.inj he
      exact absurd hx (h' x List.mem_cons_self)
  | cons y before ih =>
    cases before' with
    | nil =>
      obtain ⟨rfl, -⟩ := List.cons.inj he
      exact absurd hx' (h y List.mem_cons_self)
    | cons y' before' =>
      obtain ⟨rfl, htail⟩ := List.cons.inj he
      obtain ⟨rfl, rfl, rfl⟩ := ih (fun z hz => h z (List.mem_cons_of_mem _ hz))
        (fun z hz => h' z (List.mem_cons_of_mem _ hz)) htail
      exact ⟨rfl, rfl, rfl⟩

theorem eq_of_append_cons {c : α} {before before' after after' : List α} (h : c ∉ before)
    (h' : c ∉ before') (he : before ++ c :: after = before' ++ c :: after') :
    before = before' ∧ after = after' := by
  have hne : ∀ {l : List α}, c ∉ l → ∀ y ∈ l, ¬ y = c := fun hl y hy hyc => hl (hyc ▸ hy)
  obtain ⟨hbefore, -, hafter⟩ := eq_of_append_cons_of_first (hne h) (hne h') rfl rfl he
  exact ⟨hbefore, hafter⟩

theorem eq_of_append_cons_of_last {c : α} {before before' after after' : List α} (h : c ∉ after)
    (h' : c ∉ after') (he : before ++ c :: after = before' ++ c :: after') :
    before = before' ∧ after = after' := by
  have hreverse := congrArg List.reverse he
  simp only [List.reverse_append, List.reverse_cons, List.append_assoc, List.singleton_append]
    at hreverse
  obtain ⟨hafter, hbefore⟩ :=
    eq_of_append_cons (List.mem_reverse.not.mpr h) (List.mem_reverse.not.mpr h') hreverse
  exact ⟨List.reverse_inj.mp hbefore, List.reverse_inj.mp hafter⟩

theorem decide_ne_of_notMem [DecidableEq α] {l : List α} {x : α} (h : x ∉ l) :
    ∀ y ∈ l, decide (y ≠ x) = true := by
  intro y hy
  rw [decide_eq_true_eq]
  rintro rfl
  exact h hy

theorem takeWhile_append_of_stop {p : α → Bool} {body rest : List α} (hb : ∀ x ∈ body, p x = true)
    (hr : ∀ x ∈ rest.head?, p x = false) : (body ++ rest).takeWhile p = body := by
  rw [List.takeWhile_append_of_pos hb]
  cases rest with
  | nil => rw [List.takeWhile_nil, List.append_nil]
  | cons x rest => rw [List.takeWhile_cons_of_neg (by simp [hr x rfl]), List.append_nil]

theorem dropWhile_append_of_stop {p : α → Bool} {body rest : List α} (hb : ∀ x ∈ body, p x = true)
    (hr : ∀ x ∈ rest.head?, p x = false) : (body ++ rest).dropWhile p = rest := by
  have hparts := List.takeWhile_append_dropWhile (p := p) (l := body ++ rest)
  rw [takeWhile_append_of_stop hb hr] at hparts
  exact List.append_cancel_left hparts

/-- **A part of some kind is told** in front of what is of another kind. -/
theorem eq_of_append_of_stop {p : α → Bool} {body body' rest rest' : List α}
    (hb : ∀ x ∈ body, p x = true) (hb' : ∀ x ∈ body', p x = true)
    (hr : ∀ x ∈ rest.head?, p x = false) (hr' : ∀ x ∈ rest'.head?, p x = false)
    (he : body ++ rest = body' ++ rest') : body = body' ∧ rest = rest' := by
  have htake := congrArg (List.takeWhile p) he
  rw [takeWhile_append_of_stop hb hr, takeWhile_append_of_stop hb' hr'] at htake
  subst htake
  exact ⟨rfl, List.append_cancel_left he⟩

/-! ### Words that tell where they end -/

/-- **Words that tell where they end** in front of what can follow them: a word and what follows it
are told by the two together. -/
def Delimited (P : α → Prop) (Follows : List β → Prop) (word : α → List β) : Prop :=
  ∀ {x x' : α} {rest rest' : List β}, P x → P x' → Follows rest → Follows rest' →
    word x ++ rest = word x' ++ rest' → x = x' ∧ rest = rest'

section Rows

variable {P : α → Prop} {Follows : List β → Prop} {word : α → List β}

/-- What can follow a word starts with another word or is what stands at the end. -/
theorem follows_flatMap (hword : ∀ x rest, P x → Follows (word x ++ rest)) {xs : List α}
    (hxs : ∀ x ∈ xs, P x) {rest : List β} (hrest : Follows rest) :
    Follows (xs.flatMap word ++ rest) := by
  cases xs with
  | nil => exact hrest
  | cons x xs =>
    rw [List.flatMap_cons, List.append_assoc]
    exact hword x _ (hxs x List.mem_cons_self)

/-- **A row of words tells its words**, if words can follow words and what comes after the row does
not start with a word. -/
theorem Delimited.flatMap (h : Delimited P Follows word)
    (hword : ∀ x rest, P x → Follows (word x ++ rest)) {xs xs' : List α} {rest rest' : List β}
    (hxs : ∀ x ∈ xs, P x) (hxs' : ∀ x ∈ xs', P x) (hrest : Follows rest) (hrest' : Follows rest')
    (hend : ∀ x more, P x → rest ≠ word x ++ more) (hend' : ∀ x more, P x → rest' ≠ word x ++ more)
    (he : xs.flatMap word ++ rest = xs'.flatMap word ++ rest') : xs = xs' ∧ rest = rest' := by
  induction xs generalizing xs' with
  | nil =>
    cases xs' with
    | nil => exact ⟨rfl, he⟩
    | cons x' xs' =>
      rw [List.flatMap_cons, List.append_assoc] at he
      exact absurd he (hend x' _ (hxs' x' List.mem_cons_self))
  | cons x xs ih =>
    cases xs' with
    | nil =>
      rw [List.flatMap_cons, List.append_assoc] at he
      exact absurd he.symm (hend' x _ (hxs x List.mem_cons_self))
    | cons x' xs' =>
      obtain ⟨hx, hmore⟩ := List.forall_mem_cons.mp hxs
      obtain ⟨hx', hmore'⟩ := List.forall_mem_cons.mp hxs'
      rw [List.flatMap_cons, List.flatMap_cons, List.append_assoc, List.append_assoc] at he
      obtain ⟨hhead, htail⟩ := h hx hx' (follows_flatMap hword hmore hrest)
        (follows_flatMap hword hmore' hrest') he
      obtain ⟨hwords, hend⟩ := ih hmore hmore' htail
      exact ⟨by rw [hhead, hwords], hend⟩

end Rows

/-! ### Numbers -/

/-- No digit stands at the head of a text. -/
def NoDigit (rest : List Char) : Prop := ∀ c ∈ rest.head?, c.isDigit = false

theorem noDigit_of_head? {rest : List Char} {c : Char} (h : rest.head? = some c)
    (hc : c.isDigit = false) : NoDigit rest := by
  intro d hd
  rw [h] at hd
  cases hd
  exact hc

theorem toList_toString (n : Nat) : (toString n).toList = Nat.toDigits 10 n := Nat.toList_repr

theorem isDigit_of_mem_toString {n : Nat} {c : Char} (h : c ∈ (toString n).toList) :
    c.isDigit = true := by
  rw [toList_toString] at h
  exact Nat.isDigit_of_mem_toDigits (by decide) (by decide) h

theorem eq_of_toList_toString_eq {n n' : Nat} (h : (toString n).toList = (toString n').toList) :
    n = n' := by
  rw [toList_toString, toList_toString] at h
  have hread := Nat.ofDigitChars_ten_toDigits (n := n)
  rw [h, Nat.ofDigitChars_ten_toDigits] at hread
  exact hread.symm

theorem delimited_number :
    Delimited (fun _ => True) NoDigit fun n : Nat => (toString n).toList := by
  intro n n' rest rest' _ _ hrest hrest' he
  obtain ⟨hdigits, hrest⟩ := eq_of_append_of_stop (fun _ => isDigit_of_mem_toString)
    (fun _ => isDigit_of_mem_toString) hrest hrest' he
  exact ⟨eq_of_toList_toString_eq hdigits, hrest⟩

end BlockLang
