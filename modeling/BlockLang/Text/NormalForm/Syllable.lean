/-! # Syllables of Hangul

A syllable is made of a leading consonant, a vowel and perhaps a trailing consonant, and the code
points of the syllables follow from those of their letters.

* `syllableLetters`: the letters of a syllable.
* `syllable?`: the syllable of two letters, or of a syllable and a trailing consonant. -/

namespace BlockLang.Text

/-- The first syllable. -/
def firstSyllable : Nat := 0xac00

/-- Whether a code point is a syllable. -/
def isSyllable (n : Nat) : Bool := firstSyllable ≤ n && n < firstSyllable + 19 * 21 * 28

/-- The letters of a syllable. -/
def syllableLetters (n : Nat) : List Nat :=
  let index := n - firstSyllable
  [0x1100 + index / 588, 0x1161 + index % 588 / 28] ++
    if index % 28 = 0 then [] else [0x11a7 + index % 28]

/-- The syllable that two code points make: a leading consonant and a vowel, or a syllable without
a trailing consonant and one. -/
def syllable? (n m : Nat) : Option Nat :=
  if 0x1100 ≤ n ∧ n < 0x1113 ∧ 0x1161 ≤ m ∧ m < 0x1176 then
    some (firstSyllable + ((n - 0x1100) * 21 + (m - 0x1161)) * 28)
  else if isSyllable n ∧ (n - firstSyllable) % 28 = 0 ∧ 0x11a7 < m ∧ m < 0x11c3 then
    some (n + (m - 0x11a7))
  else none

end BlockLang.Text
