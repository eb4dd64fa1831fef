import BlockLang.Encoding.Fault

/-! # Code points without surrogates

A text is a list of code points in which there is no surrogate, and what is done with code points
does the same to a text as what is done with characters.

* `CodePoint.through_map_char`, `CodePoint.through_id`: stand-ins change nothing of a text, and from
  the two in the place of a surrogate the surrogate is found again.
* `CodePoint.writingFault?_eq_none_iff`: what can be written is a text.
* `Decoding.ofNumbers_cases`: decoding gives a text or code points with a surrogate, and neither adds
  to the numbers that are read nor changes them. -/

namespace BlockLang

variable {points : List CodePoint}

namespace CodePoint

theorem text?_map_char (text : List Char) : text? (text.map char) = some text := by
  induction text with
  | nil => rfl
  | cons c text ih =>
    rw [text?] at ih
    rw [List.map_cons, text?, List.mapM_cons, ih]
    rfl

/-- **Code points are a text or have a surrogate among them.** -/
theorem text?_cases (points : List CodePoint) :
    (∃ text : List Char, points = text.map char ∧ text? points = some text) ∨
      ((∃ n, surrogate n ∈ points) ∧ text? points = none) := by
  induction points with
  | nil => exact .inl ⟨[], rfl, rfl⟩
  | cons p points ih =>
    cases p with
    | surrogate n => exact .inr ⟨⟨n, List.mem_cons_self⟩, rfl⟩
    | char c =>
      rcases ih with ⟨text, rfl, -⟩ | ⟨⟨n, hn⟩, hnone⟩
      · exact .inl ⟨c :: text, rfl, text?_map_char (c :: text)⟩
      · refine .inr ⟨⟨n, List.mem_cons_of_mem _ hn⟩, ?_⟩
        rw [text?] at hnone
        rw [text?, List.mapM_cons, hnone]
        rfl

/-! ### Stand-ins -/

theorem toNat_standIn {plane : Nat} (hlow : 1 ≤ plane) (hhigh : plane ≤ 0x10) (n : Fin 0x800) :
    (standIn plane (surrogate n)).toNat = 0x10000 * plane + n := by
  have hvalid : (0x10000 * plane + n).isValidChar := .inr ⟨by omega, by omega⟩
  rw [standIn, Char.ofNat, dif_pos hvalid]
  rfl

/-- **The code point that has two stand-ins** is found again. -/
theorem ofStandIns_standIn (p : CodePoint) : ofStandIns (p.standIn 0xf) (p.standIn 0x10) = p := by
  cases p with
  | char c => exact if_pos rfl
  | surrogate n =>
    have hlow : (standIn 0xf (surrogate n)).toNat = 0xf0000 + n :=
      toNat_standIn (by decide) (by decide) n
    have hhigh : (standIn 0x10 (surrogate n)).toNat = 0x100000 + n :=
      toNat_standIn (by decide) (by decide) n
    have hne : standIn 0xf (surrogate n) ≠ standIn 0x10 (surrogate n) := by
      intro heq
      rw [heq, hhigh] at hlow
      omega
    rw [ofStandIns, if_neg hne, hlow, Nat.add_sub_cancel_left, Fin.ofNat_val_eq_self]

theorem through_id (points : List CodePoint) : through id points = points := by
  rw [through, id, id, List.zipWith_map, List.zipWith_self]
  exact List.map_id'' ofStandIns_standIn points

theorem map_standIn_map_char (plane : Nat) (text : List Char) :
    (text.map char).map (standIn plane) = text := by
  rw [List.map_map]
  exact List.map_id text

/-- **On a text the stand-ins change nothing.** -/
theorem through_map_char (f : List Char → List Char) (text : List Char) :
    through f (text.map char) = (f text).map char := by
  rw [through, map_standIn_map_char, map_standIn_map_char, List.zipWith_self]
  exact List.map_congr_left fun c _ => if_pos rfl

/-! ### Writing -/

theorem escaped_map_char (text : List Char) : escaped (text.map char) = text := by
  rw [escaped, List.flatMap_map]
  exact List.flatMap_singleton' text

/-- **What can be written is a text.** -/
theorem writingFault?_eq_none_iff {position : Nat} :
    writingFault? position points = none ↔ ∃ text : List Char, points = text.map char := by
  induction points generalizing position with
  | nil => exact ⟨fun _ => ⟨[], rfl⟩, fun _ => rfl⟩
  | cons p points ih =>
    cases p with
    | surrogate n =>
      constructor
      · intro h
        cases h
      · rintro ⟨_ | ⟨c, text⟩, htext⟩ <;> cases htext
    | char c =>
      rw [writingFault?, ih]
      constructor
      · rintro ⟨text, rfl⟩
        exact ⟨c :: text, rfl⟩
      · rintro ⟨_ | ⟨d, text⟩, htext⟩
        · cases htext
        · exact ⟨text, (List.cons.inj htext).2⟩

end CodePoint

/-- **What some numbers are decoded to**: the characters with these numbers, or code points with a
surrogate among them. -/
theorem Decoding.ofNumbers_cases (numbers : List Nat) :
    (∃ text : List Char, numbers.map CodePoint.ofNat = text.map .char ∧
        ofNumbers numbers = .ok text) ∨
      ∃ points, numbers.map CodePoint.ofNat = points ∧ (∃ n, .surrogate n ∈ points) ∧
        ofNumbers numbers = .error (.surrogates points) := by
  rw [ofNumbers]
  rcases CodePoint.text?_cases (numbers.map CodePoint.ofNat) with
    ⟨text, htext, hsome⟩ | ⟨hmem, hnone⟩
  · exact .inl ⟨text, htext, by rw [hsome]⟩
  · exact .inr ⟨_, rfl, hmem, by rw [hnone]⟩

end BlockLang
