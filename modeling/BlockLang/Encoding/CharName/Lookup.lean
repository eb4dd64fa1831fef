import BlockLang.Encoding.CharName.Table

/-! # Characters by their names

* `syllable?`: a syllable of Hangul by the romanised letters of its name.
* `ideograph?`: a unified ideograph by the digits in its name.
* `codePoint?`: a character by its name. Only in the two families above do small letters not count
  as capital ones. -/

namespace BlockLang.CharName

/-! ### Syllables -/

/-- The names of leading consonants, in order. -/
def leads : List String :=
  ["G", "GG", "N", "D", "DD", "R", "M", "B", "BB", "S", "SS", "", "J", "JJ", "C", "K", "T", "P",
   "H"]

/-- The names of vowels, in order. -/
def vowels : List String :=
  ["A", "AE", "YA", "YAE", "EO", "E", "YEO", "YE", "O", "WA", "WAE", "OE", "YO", "U", "WEO", "WE",
   "WI", "YU", "EU", "YI", "I"]

/-- The names of trailing consonants, in order; the first one is the missing consonant. -/
def trails : List String :=
  ["", "G", "GG", "GS", "N", "NJ", "NH", "D", "L", "LG", "LM", "LB", "LS", "LT", "LP", "LH", "M",
   "B", "BS", "S", "SS", "NG", "J", "C", "K", "T", "P", "H"]

/-- The longest of some texts with which a text starts, as its place in the list and the rest of the
text. -/
def longest? (texts : List String) (text : List Char) : Option (Nat × List Char) :=
  let fits (t : String × Nat) : Bool := t.1.toList.isPrefixOf text
  let longer (best : Option (String × Nat)) (t : String × Nat) : Option (String × Nat) :=
    match best with
    | some b => if b.1.length < t.1.length then some t else best
    | none => some t
  ((texts.zipIdx.filter fits).foldl longer none).map fun t => (t.2, text.drop t.1.length)

/-- The syllable that some romanised letters make. -/
def syllable? (letters : List Char) : Option Nat := do
  let (lead, letters) ← longest? leads letters
  let (vowel, letters) ← longest? vowels letters
  let (trail, letters) ← longest? trails letters
  if letters = [] then some (0xac00 + (lead * 21 + vowel) * 28 + trail) else none

/-! ### Ideographs -/

/-- Where the unified ideographs are: the first and last one of each block. -/
def ideographs : List (Nat × Nat) :=
  [(0x3400, 0x4dbf), (0x4e00, 0x9fff), (0x20000, 0x2a6df), (0x2a700, 0x2b738), (0x2b740, 0x2b81d),
   (0x2b820, 0x2cea1), (0x2ceb0, 0x2ebe0), (0x30000, 0x3134a)]

/-- The value of a decimal digit or a capital letter up to `F`. -/
def capitalHex? (c : Char) : Option Nat :=
  if '0' ≤ c ∧ c ≤ '9' then some (c.toNat - '0'.toNat)
  else if 'A' ≤ c ∧ c ≤ 'F' then some (c.toNat - 'A'.toNat + 10)
  else none

/-- The unified ideograph with a code point of four or five given digits. -/
def ideograph? (digits : List Char) : Option Nat := do
  let values ← digits.mapM capitalHex?
  let n := values.foldl (fun n d => 16 * n + d) 0
  if (values.length = 4 ∨ values.length = 5) ∧ ideographs.any fun b => b.1 ≤ n ∧ n ≤ b.2 then
    some n
  else none

/-! ### All characters -/

/-- The code point of the character with a given name. -/
def codePoint? (name : List Char) : Option Nat :=
  match "HANGUL SYLLABLE ".toList.isPrefixOf? name with
  | some letters => syllable? letters
  | none =>
    match "CJK UNIFIED IDEOGRAPH-".toList.isPrefixOf? name with
    | some digits => ideograph? digits
    | none => byName.get[(String.ofList (name.map Char.toUpper))]?

end BlockLang.CharName
