import BlockLang.Encoding.CharName.Alias
import BlockLang.Encoding.CharName.Ancient
import BlockLang.Encoding.CharName.Asian
import BlockLang.Encoding.CharName.Cuneiform
import BlockLang.Encoding.CharName.EastAsian
import BlockLang.Encoding.CharName.European
import BlockLang.Encoding.CharName.Mathematics
import BlockLang.Encoding.CharName.MiddleEastern
import BlockLang.Encoding.CharName.Modern
import BlockLang.Encoding.CharName.Pictographs
import BlockLang.Encoding.CharName.Presentation
import BlockLang.Encoding.CharName.Symbols
import BlockLang.Encoding.CharName.Various
import Std.Data.HashMap

/-! # The table of the names of characters

The names of Unicode 14.0, without those of unified ideographs and of syllables.

* `runs`, `families`, `aliases`: the names by where they come from.
* `byName`: the code point of every name. -/

namespace BlockLang.CharName

/-- A number in capital hexadecimal digits. -/
def hex (n : Nat) : String := (String.ofList (Nat.toDigits 16 n)).toUpper

/-- A number in three decimal digits. -/
def threeDigits (n : Nat) : String :=
  String.ofList [Nat.digitChar (n / 100 % 10), Nat.digitChar (n / 10 % 10), Nat.digitChar (n % 10)]

/-- The numbers of the dots of a pattern, of which each has its bit. -/
def dots (bits : Nat) : String :=
  String.join (((List.range 8).filter bits.testBit).map fun dot => toString (dot + 1))

/-- The names that are written down. -/
def runs : List Run :=
  european ++ middleEastern ++ asian ++ symbols ++ eastAsian ++ modern ++ presentation ++ ancient ++
    cuneiform ++ various ++ mathematics ++ pictographs

/-- The names that follow a rule. The variation selectors also have a short name. -/
def families : List Family :=
  [⟨"CJK COMPATIBILITY IDEOGRAPH-", 0xf900, 0xfa6d, hex⟩,
   ⟨"CJK COMPATIBILITY IDEOGRAPH-", 0xfa70, 0xfad9, hex⟩,
   ⟨"CJK COMPATIBILITY IDEOGRAPH-", 0x2f800, 0x2fa1d, hex⟩,
   ⟨"KHITAN SMALL SCRIPT CHARACTER-", 0x18b00, 0x18cd5, hex⟩,
   ⟨"NUSHU CHARACTER-", 0x1b170, 0x1b2fb, hex⟩,
   ⟨"TANGUT COMPONENT-", 0x18800, 0x18aff, fun n => threeDigits (n - 0x187ff)⟩,
   ⟨"BRAILLE PATTERN DOTS-", 0x2801, 0x28ff, fun n => dots (n - 0x2800)⟩] ++
  ["VARIATION SELECTOR-", "VS"].flatMap fun stem =>
    [⟨stem, 0xfe00, 0xfe0f, fun n => toString (n - 0xfdff)⟩,
     ⟨stem, 0xe0100, 0xe01ef, fun n => toString (n - 0xe00ff + 16)⟩]

/-- The code point of every name. -/
def byName : Thunk (Std.HashMap String Nat) := Thunk.mk fun _ =>
  .ofList <|
    (runs.flatMap fun r => numbered r.first r.names) ++
    (families.flatMap fun f => numbered f.first f.names) ++
    aliases.map fun (n, name) => (name, n)

end BlockLang.CharName
