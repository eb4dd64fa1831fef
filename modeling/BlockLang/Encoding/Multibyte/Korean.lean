import BlockLang.Encoding.CharSet.KsX1001
import BlockLang.Encoding.Multibyte.Reading

/-! # Korean encodings

A syllable has an initial consonant, a vowel and perhaps a final consonant; the code point of a
syllable tells their numbers.

* `Hangul`: syllables and their letters.
* `EucKr`: KS X 1001 in bytes above `0xa0`, with other syllables spelled letter by letter.
* `Uhc`: KS X 1001 and the syllables that it lacks.
* `Johab`: syllables by the codes of their letters, and the rest of KS X 1001. -/

namespace BlockLang.Multibyte

namespace Hangul

/-- The initial consonants of syllables in order. -/
def initials : List Char := "ㄱㄲㄴㄷㄸㄹㅁㅂㅃㅅㅆㅇㅈㅉㅊㅋㅌㅍㅎ".toList

/-- The vowels of syllables in order. -/
def vowels : List Char := "ㅏㅐㅑㅒㅓㅔㅕㅖㅗㅘㅙㅚㅛㅜㅝㅞㅟㅠㅡㅢㅣ".toList

/-- The final consonants of syllables in order. -/
def finals : List Char := "ㄱㄲㄳㄴㄵㄶㄷㄹㄺㄻㄼㄽㄾㄿㅀㅁㅂㅄㅅㅆㅇㅈㅊㅋㅌㅍㅎ".toList

/-- The syllable with given letters, told by their numbers; a syllable without a final consonant has
the number zero there. -/
def syllable (initial vowel final : Nat) : Char :=
  Char.ofNat (0xac00 + 588 * initial + 28 * vowel + final)

end Hangul

/-! ### KS X 1001 with spelled syllables -/

namespace EucKr

/-- The letter of a byte. -/
def letter (b : Nat) : Char := Char.ofNat (0x3131 + b - 0xa1)

/-- The byte for no letter, which also starts a spelled syllable. -/
def filler : Nat := 0xd4

/-- The syllable spelled by the bytes of three letters, the last of which may be the filler. -/
def spelled? (a b c : Nat) : Option Char := do
  let initial ← Hangul.initials.idxOf? (letter a)
  let vowel ← Hangul.vowels.idxOf? (letter b)
  let final ← if c = filler then some 0 else (Hangul.finals.idxOf? (letter c)).map (· + 1)
  return Hangul.syllable initial vowel final

/-- The reading of a character of two bytes, or of a syllable spelled in eight: four pairs that all
start with `0xa4`, the filler first. -/
def read (lead : UInt8) (rest : List UInt8) : Reading Unit :=
  if lead = 0xa4 ∧ rest.head?.map UInt8.toNat = some filler then
    match rest with
    | _ :: i :: a :: v :: b :: f :: c :: _ =>
      if i = 0xa4 ∧ v = 0xa4 ∧ f = 0xa4 then .ofChar? 7 (spelled? a.toNat b.toNat c.toNat)
      else .illegal 0
    | _ => .incomplete
  else readPair (highChar? .ksX1001) lead rest

/-- The text that some bytes encode. -/
def decode : List UInt8 → Decoded := decodeAll "euc_kr" (readAscii read)

end EucKr

/-! ### KS X 1001 with all syllables -/

namespace Uhc

/-- The syllables that KS X 1001 lacks, in the order of their code points. -/
def syllables : Array Char := (CharSet.othersFrom 0xac00 11172 CharSet.ksX1001.chars).toArray

/-- The number of the second byte of such a syllable, among those that can be it. -/
def trailIndex? (trail : Nat) : Option Nat :=
  if 0x41 ≤ trail ∧ trail ≤ 0x5a then some (trail - 0x41)
  else if 0x61 ≤ trail ∧ trail ≤ 0x7a then some (trail - 0x61 + 26)
  else if 0x81 ≤ trail ∧ trail ≤ 0xfe then some (trail - 0x81 + 52)
  else none

/-- The number of such a syllable. They fill the rows before those of KS X 1001, and then, with
second bytes up to `0xa0`, the rows from `0xa1` on. -/
def syllableIndex? (lead trail : Nat) : Option Nat :=
  (trailIndex? trail).bind fun i =>
    if 0x81 ≤ lead ∧ lead ≤ 0xa0 then some (178 * (lead - 0x81) + i)
    else if 0xa1 ≤ lead ∧ i < 84 then some (32 * 178 + 84 * (lead - 0xa1) + i)
    else none

/-- The character of two bytes. -/
def char? (lead trail : Nat) : Option Char :=
  (highChar? .ksX1001 lead trail).or ((syllableIndex? lead trail).bind fun i => syllables[i]?)

/-- The text that some bytes encode. -/
def decode : List UInt8 → Decoded := decodePairs "cp949" char?

end Uhc

/-! ### Syllables by letters -/

namespace Johab

/-- What the code of a letter in a syllable stands for: no letter, or one told by its number. -/
def initial? (code : Nat) : Option (Option Nat) :=
  if code = 1 then some none
  else if 2 ≤ code ∧ code ≤ 20 then some (some (code - 2))
  else none

@[inherit_doc initial?]
def vowel? (code : Nat) : Option (Option Nat) :=
  if code = 2 then some none
  else if 3 ≤ code ∧ code ≤ 29 ∧ 2 ≤ code % 8 ∨ code = 3 then
    some (([3, 4, 5, 6, 7, 10, 11, 12, 13, 14, 15, 18, 19, 20, 21, 22, 23, 26, 27, 28, 29] :
      List Nat).idxOf? code)
  else none

@[inherit_doc initial?]
def final? (code : Nat) : Option (Option Nat) :=
  if code = 1 then some none
  else if 2 ≤ code ∧ code ≤ 17 then some (some (code - 2))
  else if 19 ≤ code ∧ code ≤ 29 then some (some (code - 3))
  else none

/-- The syllable or the single letter of some letters. A final consonant needs the other two, or
stands alone. -/
def compose? : Option Nat → Option Nat → Option Nat → Option Char
  | none, none, none => some '\u3000'
  | none, none, some f => Hangul.finals[f]?
  | none, some v, none => Hangul.vowels[v]?
  | some i, none, none => Hangul.initials[i]?
  | some i, some v, f => some (Hangul.syllable i v (f.elim 0 (· + 1)))
  | _, _, _ => none

/-- The syllable or letter of two bytes: three codes of five bits after the first bit. -/
def hangul? (lead trail : Nat) : Option Char := do
  let code := 256 * lead + trail
  compose? (← initial? (code / 1024 % 32)) (← vowel? (code / 32 % 32)) (← final? (code % 32))

/-- The other characters of KS X 1001, two rows of it for a first byte. -/
def other? (lead trail : Nat) : Option Char :=
  if lead = 0xd8 ∨ lead = 0xdf ∨ 0xf9 < lead ∨ trail < 0x31 ∨
      (0x80 ≤ trail ∧ trail < 0x91) ∨ trail % 0x80 = 0x7f ∨
      (lead = 0xda ∧ 0xa1 ≤ trail ∧ trail ≤ 0xd3) then
    none
  else
    let row := if lead < 0xe0 then 2 * (lead - 0xd9) else 2 * lead - 0x197
    let cell := if trail < 0x91 then trail - 0x31 else trail - 0x43
    CharSet.ksX1001.char? (row + cell / 94 + 1) (cell % 94 + 1)

/-- The character of two bytes. -/
def char? (lead trail : Nat) : Option Char :=
  if lead < 0xd8 then hangul? lead trail else other? lead trail

/-- The text that some bytes encode. -/
def decode : List UInt8 → Decoded := decodePairs "johab" char?

end Johab

end BlockLang.Multibyte
