import BlockLang.Encoding.Utf8
import Mathlib.Data.List.Forall2

/-! # Reading UTF-8 back

The bytes of a character are a lead byte and a tail that keeps to the bounds of the lead byte
(`encodeChar_cases`), so they are read as one character (`decodeFrom_encodeChar`), and a text is read
back from its encoding (`decode_encode`). -/

namespace BlockLang.Utf8

/-- A tail keeps to some bounds, one byte for each. -/
def Fits (bounds : List (Nat × Nat)) (tail : List UInt8) : Prop :=
  List.Forall₂ (fun bound b => bound.1 ≤ b.toNat ∧ b.toNat ≤ bound.2) bounds tail

variable {n : Nat} {bounds : List (Nat × Nat)} {tail : List UInt8}

theorem matching_append (h : Fits bounds tail) (rest : List UInt8) :
    matching bounds (tail ++ rest) = tail := by
  induction h with
  | nil => rfl
  | cons hb _ ih => rw [List.cons_append, matching, if_pos hb, ih]

theorem decodeFrom_cons_append {lead : UInt8} (hlead : tailBounds? lead.toNat = some bounds)
    (h : Fits bounds tail) (position : Nat) (rest : List UInt8) :
    decodeFrom position (lead :: (tail ++ rest)) =
      (decodeFrom (position + 1 + tail.length) rest).after [Char.ofNat (value lead tail)] := by
  have hlength : tail.length = bounds.length := (List.Forall₂.length_eq h).symm
  rw [decodeFrom, hlead]
  dsimp only
  rw [matching_append h, if_pos hlength, List.drop_left]

/-! ### The bounds of a tail -/

theorem tailBounds?_one (h : n < 0x80) : tailBounds? n = some [] := by
  rw [tailBounds?, if_pos h]

theorem tailBounds?_two (h : 0xc2 ≤ n) (h' : n < 0xe0) : tailBounds? n = some [(0x80, 0xbf)] := by
  rw [tailBounds?, if_neg (by omega), if_neg (by omega), if_pos h']

theorem tailBounds?_three (h : 0xe0 ≤ n) (h' : n < 0xf0) : ∃ low high,
    tailBounds? n = some [(low, high), (0x80, 0xbf)] ∧
      (low = if n = 0xe0 then 0xa0 else 0x80) ∧ high = if n = 0xed then 0x9f else 0xbf := by
  refine ⟨_, _, ?_, rfl, rfl⟩
  rw [tailBounds?, if_neg (by omega), if_neg (by omega), if_neg (by omega)]
  by_cases he0 : n = 0xe0
  · subst he0; rfl
  by_cases hed : n = 0xed
  · subst hed; rfl
  rw [if_neg he0, if_neg hed, if_pos h', if_neg he0, if_neg hed]

theorem tailBounds?_four (h : 0xf0 ≤ n) (h' : n < 0xf5) : ∃ low high,
    tailBounds? n = some [(low, high), (0x80, 0xbf), (0x80, 0xbf)] ∧
      (low = if n = 0xf0 then 0x90 else 0x80) ∧ high = if n = 0xf4 then 0x8f else 0xbf := by
  refine ⟨_, _, ?_, rfl, rfl⟩
  rw [tailBounds?, if_neg (by omega), if_neg (by omega), if_neg (by omega), if_neg (by omega),
    if_neg (by omega), if_neg (by omega)]
  by_cases hf0 : n = 0xf0
  · subst hf0; rfl
  by_cases hf4 : n = 0xf4
  · subst hf4; rfl
  rw [if_neg hf0, if_neg hf4, if_pos (by omega), if_neg hf0, if_neg hf4]

/-! ### The bytes of a character -/

theorem toNat_ofNat_of_lt (h : n < 256) : (UInt8.ofNat n).toNat = n := by
  rw [UInt8.toNat_ofNat']; exact Nat.mod_eq_of_lt h

theorem toNat_cases (c : Char) : c.toNat < 0xd800 ∨ 0xdfff < c.toNat ∧ c.toNat < 0x110000 := c.valid

/-- **The bytes of a character are a lead byte and a tail that fits**, and have its code point. -/
theorem encodeChar_cases (c : Char) : ∃ lead tail bounds,
    String.utf8EncodeChar c = lead :: tail ∧ tailBounds? lead.toNat = some bounds ∧
      Fits bounds tail ∧ value lead tail = c.toNat := by
  have hc := toNat_cases c
  have hv : c.val.toNat = c.toNat := rfl
  rw [String.utf8EncodeChar]
  rw [hv]
  generalize c.toNat = v at hc
  by_cases h1 : v ≤ 0x7f
  · have hlead := toNat_ofNat_of_lt (n := v) (by omega)
    refine ⟨_, _, _, if_pos h1, tailBounds?_one (by omega), .nil, ?_⟩
    exact hlead
  by_cases h2 : v ≤ 0x7ff
  · have hlead := toNat_ofNat_of_lt (n := v / 64 % 32 + 192) (by omega)
    have hlast := toNat_ofNat_of_lt (n := v % 64 + 128) (by omega)
    refine ⟨_, _, _, by rw [if_neg h1, if_pos h2], tailBounds?_two (by omega) (by omega),
      .cons ?_ .nil, ?_⟩
    · rw [hlast]; omega
    · simp only [value, List.foldl, List.length, leadValue, hlead, hlast]
      omega
  by_cases h3 : v ≤ 0xffff
  · have hlead := toNat_ofNat_of_lt (n := v / 4096 % 16 + 224) (by omega)
    have hmiddle := toNat_ofNat_of_lt (n := v / 64 % 64 + 128) (by omega)
    have hlast := toNat_ofNat_of_lt (n := v % 64 + 128) (by omega)
    obtain ⟨low, high, hbounds, hlow, hhigh⟩ :=
      tailBounds?_three (n := v / 4096 % 16 + 224) (by omega) (by omega)
    refine ⟨_, _, _, by rw [if_neg h1, if_neg h2, if_pos h3], by rw [hlead]; exact hbounds,
      .cons ?_ (.cons ?_ .nil), ?_⟩
    · rw [hmiddle, hlow, hhigh]
      split <;> split <;> omega
    · rw [hlast]; omega
    · simp only [value, List.foldl, List.length, leadValue, hlead, hmiddle, hlast]
      omega
  · have hlead := toNat_ofNat_of_lt (n := v / 262144 % 8 + 240) (by omega)
    have hsecond := toNat_ofNat_of_lt (n := v / 4096 % 64 + 128) (by omega)
    have hthird := toNat_ofNat_of_lt (n := v / 64 % 64 + 128) (by omega)
    have hlast := toNat_ofNat_of_lt (n := v % 64 + 128) (by omega)
    obtain ⟨low, high, hbounds, hlow, hhigh⟩ :=
      tailBounds?_four (n := v / 262144 % 8 + 240) (by omega) (by omega)
    refine ⟨_, _, _, by rw [if_neg h1, if_neg h2, if_neg h3], by rw [hlead]; exact hbounds,
      .cons ?_ (.cons ?_ (.cons ?_ .nil)), ?_⟩
    · rw [hsecond, hlow, hhigh]
      split <;> split <;> omega
    · rw [hthird]; omega
    · rw [hlast]; omega
    · simp only [value, List.foldl, List.length, leadValue, hlead, hsecond, hthird, hlast]
      omega

/-- **The bytes of a character are read as the character.** -/
theorem decodeFrom_encodeChar (c : Char) (position : Nat) (rest : List UInt8) : ∃ next,
    decodeFrom position (String.utf8EncodeChar c ++ rest) = (decodeFrom next rest).after [c] := by
  obtain ⟨lead, tail, bounds, he, hlead, hfits, hvalue⟩ := encodeChar_cases c
  rw [he, List.cons_append, decodeFrom_cons_append hlead hfits, hvalue, Char.ofNat_toNat]
  exact ⟨_, rfl⟩

theorem decode_encode (text : List Char) : decode (encode text) = .ok text := by
  have hfrom : ∀ (text : List Char) (position : Nat),
      decodeFrom position (encode text) = .ok text := by
    intro text
    induction text with
    | nil => intro position; rw [encode, List.flatMap_nil, decodeFrom]
    | cons c text ih =>
      intro position
      obtain ⟨next, hnext⟩ := decodeFrom_encodeChar c position (encode text)
      rw [encode, List.flatMap_cons, ← encode, hnext, ih next]
      rfl
  exact hfrom text 0

end BlockLang.Utf8
