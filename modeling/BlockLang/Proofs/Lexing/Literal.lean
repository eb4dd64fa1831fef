import BlockLang.Proofs.Lexing.ScanOrder

/-! # The scans of comments and literals

What follows the opening of a comment or literal is read by recursion on the characters. Each of
these scans reads what the rule describes, and the rule describes every text that it can meet.

* `blockEnd?_append`, `exists_of_blockEnd?`, `blockEnd?_eq_none_iff`: the first `*/`.
* `stringBody_append`, `quoted_cases`: the inside of a string literal.
* `charBody_append`, `spells_cases`: the inside of a character literal. -/

namespace BlockLang

/-! ### The end of a block comment -/

theorem blockEnd?_cons {c : Char} {cs : List Char} (h : ¬ ['*', '/'] <+: c :: cs) :
    blockEnd? (c :: cs) = (blockEnd? cs).map (· + 1) := by
  refine blockEnd?.eq_3 c cs fun tail hc hcs => h ?_
  rw [hc, hcs]; exact ⟨tail, rfl⟩

theorem blockEnd?_of_end {text : List Char} (h : ['*', '/'] <+: text) :
    blockEnd? text = some 2 := by
  obtain ⟨tail, rfl⟩ := h; exact blockEnd?.eq_2 tail

/-- **A comment ends at the first `*/`.** -/
theorem blockEnd?_append {rest : List Char} : ∀ {body : List Char},
    ¬ ['*', '/'] <:+: body ++ ['*'] →
      blockEnd? (body ++ '*' :: '/' :: rest) = some (body.length + 2)
  | [], _ => rfl
  | c :: body, h => by
    rw [List.cons_append, List.infix_cons_iff, not_or] at h
    have hp : ¬ ['*', '/'] <+: c :: (body ++ '*' :: '/' :: rest) := by
      intro hp
      obtain ⟨rfl, htail⟩ := List.cons_prefix_cons.mp hp
      rcases body with _ | ⟨d, body⟩
      · cases (List.cons_prefix_cons.mp htail).1
      · obtain rfl := (List.cons_prefix_cons.mp htail).1
        exact h.1 ⟨body ++ ['*'], rfl⟩
    rw [List.cons_append, blockEnd?_cons hp, blockEnd?_append h.2]
    simp [Nat.add_right_comm]

theorem exists_of_blockEnd? : ∀ {text : List Char} {n : Nat}, blockEnd? text = some n →
    ∃ body rest, text = body ++ '*' :: '/' :: rest ∧ n = body.length + 2 ∧
      ¬ ['*', '/'] <:+: body ++ ['*']
  | [], n, h => by cases h
  | c :: cs, n, h => by
    by_cases hp : ['*', '/'] <+: c :: cs
    · rw [blockEnd?_of_end hp] at h
      obtain ⟨rest, he⟩ := hp
      cases h
      refine ⟨[], rest, he.symm, rfl, fun hi => ?_⟩
      have := hi.length_le
      simp at this
    · rw [blockEnd?_cons hp] at h
      obtain ⟨m, hm, rfl⟩ := Option.map_eq_some_iff.mp h
      obtain ⟨body, rest, rfl, rfl, hi⟩ := exists_of_blockEnd? hm
      refine ⟨c :: body, rest, rfl, by simp [Nat.add_right_comm], fun hi' => ?_⟩
      rw [List.cons_append, List.infix_cons_iff] at hi'
      rcases hi' with hp' | hi'
      · refine hp (hp'.trans ?_)
        rw [List.cons_prefix_cons]
        exact ⟨rfl, ['/'] ++ rest, by simp⟩
      · exact hi hi'

theorem blockEnd?_eq_none_iff : ∀ {text : List Char},
    blockEnd? text = none ↔ ¬ ['*', '/'] <:+: text
  | [] => iff_of_true rfl fun h => by simpa using h.length_le
  | c :: cs => by
    rw [List.infix_cons_iff, not_or]
    by_cases hp : ['*', '/'] <+: c :: cs
    · rw [blockEnd?_of_end hp]
      exact iff_of_false (by simp) fun h => h.1 hp
    · rw [blockEnd?_cons hp, Option.map_eq_none_iff, blockEnd?_eq_none_iff]
      exact (and_iff_right hp).symm

/-! ### The inside of a string literal -/

theorem stringBody_plain {c : Char} {cs : List Char} (hq : c ≠ '"') (hb : c ≠ '\\') :
    stringBody (c :: cs) = (stringBody cs).after [c] 1 :=
  stringBody.eq_5 c cs hq (fun h _ => hb h) fun _ _ h _ => hb h

theorem stringBody_append {body value : List Char} (h : Quoted body value) (text : List Char) :
    stringBody (body ++ text) = (stringBody text).after value body.length := by
  induction h with
  | nil => simp [LiteralBody.after]
  | plain hq hb _ ih =>
    rw [List.cons_append, stringBody_plain hq hb, ih]
    simp [LiteralBody.after]; omega
  | escape _ ih =>
    rw [List.cons_append, List.cons_append, stringBody.eq_4, ih]
    simp [LiteralBody.after]; omega

/-- **A string literal ends at the first mark that is not escaped.** -/
theorem stringBody_closed {body value : List Char} (h : Quoted body value) (rest : List Char) :
    stringBody (body ++ '"' :: rest) = ⟨value, body.length + 1, true⟩ := by
  rw [stringBody_append h, stringBody.eq_2]; simp [LiteralBody.after]

theorem stringBody_open {body value : List Char} (h : Quoted body value) :
    stringBody body = ⟨value, body.length, false⟩ := by
  have := stringBody_append h []
  rw [List.append_nil] at this
  rw [this, stringBody.eq_1]; simp [LiteralBody.after]

theorem stringBody_openEscape {body value : List Char} (h : Quoted body value) :
    stringBody (body ++ ['\\']) = ⟨value, body.length + 1, false⟩ := by
  rw [stringBody_append h, stringBody.eq_3]; simp [LiteralBody.after]

/-- **Every text is the inside of a string literal**, which is closed, or open, or open behind a
backslash. -/
theorem quoted_cases : ∀ text : List Char,
    (∃ body value rest, text = body ++ '"' :: rest ∧ Quoted body value) ∨
      (∃ value, Quoted text value) ∨ ∃ body value, text = body ++ ['\\'] ∧ Quoted body value
  | [] => Or.inr (Or.inl ⟨[], .nil⟩)
  | [c] => by
    by_cases hq : c = '"'
    · exact Or.inl ⟨[], [], [], by rw [hq]; rfl, .nil⟩
    by_cases hb : c = '\\'
    · exact Or.inr (Or.inr ⟨[], [], by rw [hb]; rfl, .nil⟩)
    · exact Or.inr (Or.inl ⟨[c], .plain hq hb .nil⟩)
  | c :: d :: cs => by
    by_cases hq : c = '"'
    · exact Or.inl ⟨[], [], d :: cs, by rw [hq]; rfl, .nil⟩
    by_cases hb : c = '\\'
    · subst hb
      rcases quoted_cases cs with ⟨body, value, rest, rfl, h⟩ | ⟨value, h⟩ | ⟨body, value, rfl, h⟩
      · exact Or.inl ⟨'\\' :: d :: body, _, rest, rfl, .escape h⟩
      · exact Or.inr (Or.inl ⟨_, .escape h⟩)
      · exact Or.inr (Or.inr ⟨'\\' :: d :: body, _, rfl, .escape h⟩)
    · rcases quoted_cases (d :: cs) with
        ⟨body, value, rest, he, h⟩ | ⟨value, h⟩ | ⟨body, value, he, h⟩
      · exact Or.inl ⟨c :: body, _, rest, by rw [he]; rfl, .plain hq hb h⟩
      · exact Or.inr (Or.inl ⟨_, .plain hq hb h⟩)
      · exact Or.inr (Or.inr ⟨c :: body, _, by rw [he]; rfl, .plain hq hb h⟩)

/-! ### The inside of a character literal -/

theorem charBody_append {piece : List Char} {c : Char} (h : Spells piece c) (rest : List Char) :
    charBody (piece ++ rest) = (charEnd rest).after [c] piece.length := by
  cases h with
  | plain hb => exact charBody.eq_4 c rest (fun h _ => hb h) fun _ _ h _ => hb h
  | escape => rfl

theorem charEnd_of_head?_ne {rest : List Char} (h : rest.head? ≠ some '\'') :
    charEnd rest = ⟨[], 0, false⟩ :=
  charEnd.eq_2 rest fun tail he => h (by rw [he]; rfl)

theorem spells_cases : ∀ text : List Char,
    text = [] ∨ text = ['\\'] ∨ ∃ piece c rest, text = piece ++ rest ∧ Spells piece c
  | [] => Or.inl rfl
  | c :: cs => by
    by_cases hb : c = '\\'
    · subst hb
      rcases cs with _ | ⟨d, cs⟩
      · exact Or.inr (Or.inl rfl)
      · exact Or.inr (Or.inr ⟨['\\', d], unescape d, cs, rfl, .escape⟩)
    · exact Or.inr (Or.inr ⟨[c], c, cs, rfl, .plain hb⟩)

end BlockLang
