import BlockLang.Encoding.CharSet.Big5
import BlockLang.Encoding.CharSet.Gb2312
import BlockLang.Encoding.CharSet.Gbk
import BlockLang.Encoding.CharSet.HongKong
import BlockLang.Encoding.CharSet.Windows
import BlockLang.Encoding.Multibyte.Reading

/-! # Chinese encodings

* `Gb2312`: GB 2312 in bytes above `0xa0`.
* `Gbk`: the same with more characters: symbols, and the ideographs that GB 2312 lacks.
* `Gb18030`: the same with all characters, the remaining ones in four bytes.
* `Hz`: GB 2312 in seven bits, between `~{` and `~}`.
* `Big5`: Big5, alone or with additions. -/

namespace BlockLang.Multibyte

/-! ### GB 2312 -/

/-- The text that some bytes encode in GB 2312. -/
def Gb2312.decode : List UInt8 → Decoded := decodePairs "gb2312" (highChar? .gb2312)

/-! ### GBK -/

namespace Gbk

/-- The ideographs that GB 2312 lacks, in the order of their code points, and after them some
compatibility ideographs. -/
def ideographs : Array Char :=
  (CharSet.othersFrom 0x4e00 0x51a6 CharSet.gb2312.chars ++
    "\uf92c\uf979\uf995\uf9e7\uf9f1\ufa0c\ufa0d\ufa0e\ufa0f\ufa11\ufa13".toList ++
    "\ufa14\ufa18\ufa1f\ufa20\ufa21\ufa23\ufa24\ufa27\ufa28\ufa29".toList).toArray

/-- The number of the second byte of a character, among those that can be it. -/
def trailIndex? (trail : Nat) : Option Nat :=
  if 0x40 ≤ trail ∧ trail ≤ 0x7e then some (trail - 0x40)
  else if 0x80 ≤ trail ∧ trail ≤ 0xfe then some (trail - 0x41)
  else none

/-- The number of an ideograph that GB 2312 lacks. Such ideographs fill the rows before those of
GB 2312, and then, with second bytes up to `0xa0`, the rows from `0xaa` on. -/
def ideographIndex? (lead trail : Nat) : Option Nat :=
  (trailIndex? trail).bind fun i =>
    if 0x81 ≤ lead ∧ lead ≤ 0xa0 then some (190 * (lead - 0x81) + i)
    else if 0xaa ≤ lead ∧ lead ≤ 0xfe ∧ i < 96 then some (32 * 190 + 96 * (lead - 0xaa) + i)
    else none

/-- The character of two bytes. -/
def char? (lead trail : Nat) : Option Char :=
  (CharSet.gbkSymbols.char? lead trail).or <|
    (highChar? .gb2312 lead trail).or <|
      (ideographIndex? lead trail).bind fun i => ideographs[i]?

/-- The text that some bytes encode. -/
def decode : List UInt8 → Decoded := decodePairs "gbk" char?

end Gbk

/-! ### GB 18030 -/

namespace Gb18030

/-- The private use character of two bytes. There are three areas for private use. -/
def privateChar? (lead trail : Nat) : Option Char :=
  (Gbk.trailIndex? trail).bind fun i =>
    if 0xaa ≤ lead ∧ lead ≤ 0xaf ∧ 96 ≤ i then
      some (Char.ofNat (0xe000 + 94 * (lead - 0xaa) + (i - 96)))
    else if 0xf8 ≤ lead ∧ lead ≤ 0xfe ∧ 96 ≤ i then
      some (Char.ofNat (0xe234 + 94 * (lead - 0xf8) + (i - 96)))
    else if 0xa1 ≤ lead ∧ lead ≤ 0xa7 ∧ i < 96 then
      some (Char.ofNat (0xe4c6 + 96 * (lead - 0xa1) + i))
    else none

/-- The private use character in a gap of GBK. The cells of the gaps are numbered from `code` on. -/
def gapChar? (lead trail : Nat) (code : Nat) : List (Nat × Nat × Nat) → Option Char
  | [] => none
  | (row, first, length) :: gaps =>
    if row = lead ∧ first ≤ trail ∧ trail < first + length then
      some (Char.ofNat (code + (trail - first)))
    else gapChar? lead trail (code + length) gaps

/-- The character of two bytes. -/
def char? (lead trail : Nat) : Option Char :=
  (CharSet.gb18030Symbols.char? lead trail).or <|
    (Gbk.char? lead trail).or <|
      (privateChar? lead trail).or <| gapChar? lead trail 0xe766 CharSet.gbkGaps

/-- The characters of two bytes. -/
def pairChars : List Char :=
  CharSet.gb18030Symbols.chars ++ CharSet.gbkSymbols.chars ++ Gbk.ideographs.toList ++
    CharSet.gb2312.chars.filter (fun c => c ≠ '・' ∧ c ≠ '―') ++
    (List.range' 0xe000 0x766).map Char.ofNat ++
    CharSet.gbkGaps.flatMap fun (row, first, length) =>
      (List.range' first length).filterMap fun trail => char? row trail

/-- The characters of the basic plane that have four bytes, in the order of their code points. -/
def quadChars : Array Char := (CharSet.othersFrom 0x80 0xff80 pairChars).toArray

/-- The character of four bytes. The bytes are the digits of a number to the bases 126, 10, 126 and
10, which is the number of a character among those of four bytes, or leads past the basic plane. -/
def quadChar? (a b c d : Nat) : Option Char :=
  if a < 0x81 ∨ 0xfe < a ∨ c < 0x81 ∨ 0xfe < c ∨ d < 0x30 ∨ 0x39 < d then none
  else
    let number := (((a - 0x81) * 10 + (b - 0x30)) * 126 + (c - 0x81)) * 10 + (d - 0x30)
    if a < 0x85 then quadChars[number]?
    else
      let code := number - 15 * 12600 + 0x10000
      if 0x90 ≤ a ∧ code ≤ 0x10ffff then some (Char.ofNat code) else none

/-- The reading of a character of two or four bytes: the second of four bytes is a digit. -/
def read (lead : UInt8) : List UInt8 → Reading Unit
  | [] => .incomplete
  | b :: rest =>
    if 0x30 ≤ b ∧ b ≤ 0x39 then
      match rest with
      | c :: d :: _ => .ofChar? 3 (quadChar? lead.toNat b.toNat c.toNat d.toNat)
      | _ => .incomplete
    else .ofChar? 1 (char? lead.toNat b.toNat)

/-- The text that some bytes encode. -/
def decode : List UInt8 → Decoded := decodeAll "gb18030" (readAscii read)

end Gb18030

/-! ### HZ -/

namespace Hz

/-- The reading of a character outside or inside of a section of characters of two bytes. The mark
`~` starts a sequence of two bytes, of which one opens a section and one closes it. -/
def read (inSection : Bool) (b : UInt8) (rest : List UInt8) : Reading Bool :=
  if b = 0x7e then
    match rest, inSection with
    | [], _ => .incomplete
    | 0x7e :: _, false => .text ['~'] 1 false
    | 0x7b :: _, false => .text [] 1 true
    | 0x0a :: _, false => .text [] 1 false
    | 0x7d :: _, true => .text [] 1 false
    | _, _ => .illegal 0
  else if 0x80 ≤ b then .illegal 0
  else if inSection then
    match rest with
    | [] => .incomplete
    | c :: _ =>
      match CharSet.gb2312.char? (b.toNat - 0x20) (c.toNat - 0x20) with
      | some char => .text [char] 1 true
      | none => .illegal 0
  else .text [Char.ofNat b.toNat] 0 false

/-- The text that some bytes encode. -/
def decode : List UInt8 → Decoded := decodeFrom "hz" read 0 false

end Hz

/-! ### Big5 -/

namespace Big5

/-- The text that some bytes encode. -/
def decode : List UInt8 → Decoded := decodePairs "big5" CharSet.big5.char?

/-- The text that some bytes encode with the characters of code page 950. -/
def decodeWindows : List UInt8 → Decoded :=
  decodePairs "cp950" fun lead trail =>
    (CharSet.windows950.char? lead trail).or (CharSet.big5.char? lead trail)

/-- Whether the supplement of Hong Kong counts before Big5 for two bytes. -/
def isRevised (lead trail : Nat) : Bool :=
  lead = 0xc6 && 0xa1 ≤ trail || lead = 0xc7 || lead = 0xc8

/-- The letters with two marks, which are two code points. -/
def markedLetters : List ((Nat × Nat) × List Char) :=
  [((0x88, 0x62), ['Ê', '\u0304']), ((0x88, 0x64), ['Ê', '\u030c']),
   ((0x88, 0xa3), ['ê', '\u0304']), ((0x88, 0xa5), ['ê', '\u030c'])]

/-- The text of two bytes with the supplement of Hong Kong. -/
def text? (lead trail : Nat) : Option (List Char) :=
  let main := if isRevised lead trail then none else CharSet.big5.char? lead trail
  ((main.or (CharSet.hongKong.char? lead trail)).map fun c => [c]).or
    (markedLetters.lookup (lead, trail))

/-- The reading of two bytes with the supplement of Hong Kong. -/
def readHongKong (lead : UInt8) : List UInt8 → Reading Unit
  | [] => .incomplete
  | trail :: _ => .ofText? 1 (text? lead.toNat trail.toNat)

/-- The text that some bytes encode with the supplement of Hong Kong. -/
def decodeHongKong : List UInt8 → Decoded := decodeAll "big5hkscs" (readAscii readHongKong)

end Big5

end BlockLang.Multibyte
