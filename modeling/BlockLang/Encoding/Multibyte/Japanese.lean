import BlockLang.Encoding.CharSet.JisX0208
import BlockLang.Encoding.CharSet.JisX0212
import BlockLang.Encoding.CharSet.JisX0213
import BlockLang.Encoding.CharSet.Windows
import BlockLang.Encoding.Multibyte.Reading

/-! # Japanese encodings

* `katakana?`: the narrow katakana, which have one byte in most encodings.
* `JisX0213`: the planes of JIS X 0213 in their editions.
* `EucJp`: the sets in bytes above `0xa0`, with a byte that tells the others from the first one.
* `ShiftJis`: the sets folded between the katakana. -/

namespace BlockLang.Multibyte

/-- The narrow katakana of a byte. -/
def katakana? (b : UInt8) : Option Char :=
  if 0xa1 ≤ b ∧ b ≤ 0xdf then some (Char.ofNat (0xfec0 + b.toNat)) else none

/-! ### JIS X 0213 -/

namespace JisX0213

/-- The editions of JIS X 0213. -/
inductive Edition
  | of2000
  | of2004
  deriving DecidableEq, Repr

/-- The text of a cell of the first plane. -/
def first? (edition : Edition) (row cell : Nat) : Option (List Char) :=
  if edition = .of2000 ∧ (row, cell) ∈ CharSet.jisX0213Since2004 then none
  else
    let char? := (CharSet.jisX0208.char? row cell).or (CharSet.jisX0213First.char? row cell)
    (char?.map fun c => [c]).or (CharSet.jisX0213Pairs.lookup (row, cell))

/-- The reading of two bytes for a cell of the first plane. The cells that are still empty in an
edition take both bytes. -/
def readFirst (edition : Edition) (row cell : Nat) : Reading Unit :=
  if edition = .of2000 ∧ (row, cell) ∈ CharSet.jisX0213Since2004 then .illegal 1
  else .ofText? 1 (first? edition row cell)

/-- The character of a cell of the second plane. One was changed for another form in 2004. -/
def second? (edition : Edition) (row cell : Nat) : Option Char :=
  if edition = .of2000 ∧ (row, cell) = (93, 27) then some '鬝'
  else CharSet.jisX0213Second.char? row cell

end JisX0213

/-! ### Bytes above `0xa0` -/

namespace EucJp

/-- The reading of a character, by the meanings of the cells of the main set and of the supplement.
The byte `0x8e` precedes narrow katakana, and `0x8f` the supplement. -/
def read (main : Nat → Nat → Reading Unit) (supplement? : Nat → Nat → Option Char)
    (lead : UInt8) (rest : List UInt8) : Reading Unit :=
  match rest with
  | [] => .incomplete
  | b :: rest =>
    if lead = 0x8e then .ofChar? 1 (katakana? b)
    else if lead = 0x8f then
      match rest with
      | [] => .incomplete
      | c :: _ => .ofChar? 2 (supplement? (b.toNat - 0xa0) (c.toNat - 0xa0))
    else main (lead.toNat - 0xa0) (b.toNat - 0xa0)

/-- The text that some bytes encode with JIS X 0208 and JIS X 0212. -/
def decode : List UInt8 → Decoded :=
  decodeAll "euc_jp" <| readAscii <|
    read (fun row cell => .ofChar? 1 (CharSet.jisX0208.char? row cell)) CharSet.jisX0212.char?

/-- The text that some bytes encode with an edition of JIS X 0213. The second plane lies in rows
that JIS X 0212 does not have. -/
def decodeJisX0213 (encoding : String) (edition : JisX0213.Edition) : List UInt8 → Decoded :=
  decodeAll encoding <| readAscii <|
    read (JisX0213.readFirst edition) fun row cell =>
      (JisX0213.second? edition row cell).or (CharSet.jisX0212.char? row cell)

end EucJp

/-! ### Folded sets -/

namespace ShiftJis

/-- Whether a byte is the first one of two. -/
def isLead (b : UInt8) : Bool := (0x81 ≤ b && b ≤ 0x9f) || (0xe0 ≤ b && b ≤ 0xfc)

/-- The row and the cell of two bytes, with two rows for a first byte. -/
def position? (lead trail : UInt8) : Option (Nat × Nat) :=
  if isLead lead ∧ 0x40 ≤ trail ∧ trail ≠ 0x7f ∧ trail ≤ 0xfc then
    let pair := lead.toNat - if lead < 0xe0 then 0x81 else 0xc1
    let cell := trail.toNat - if trail < 0x80 then 0x40 else 0x41
    some (2 * pair + cell / 94 + 1, cell % 94 + 1)
  else none

/-- The reading of a character, by the last byte that is the first one of two, and by the meanings
of single bytes and of cells. -/
def read (lastLead : UInt8) (single? : UInt8 → Option Char)
    (cell : Nat → Nat → Reading Unit) (b : UInt8) (rest : List UInt8) : Reading Unit :=
  match single? b with
  | some c => .text [c] 0 ()
  | none =>
    if isLead b ∧ b ≤ lastLead then
      match rest with
      | [] => .incomplete
      | trail :: _ => (position? b trail).elim (.illegal 0) fun (row, number) => cell row number
    else .illegal 0

/-- The character of a single byte: ASCII or narrow katakana. -/
def single? (b : UInt8) : Option Char :=
  if b < 0x80 then some (Char.ofNat b.toNat) else katakana? b

/-- The text that some bytes encode with JIS X 0208. -/
def decode : List UInt8 → Decoded :=
  decodeAll "shift_jis" <| read 0xea single? fun row cell =>
    .ofChar? 1 (CharSet.jisX0208.char? row cell)

/-- The character of a single byte in code page 932. -/
def windowsSingle? (b : UInt8) : Option Char :=
  if b = 0x80 then some '\u0080'
  else if b = 0xa0 then some '\uf8f0'
  else if 0xfd ≤ b then some (Char.ofNat (0xf8f1 + (b.toNat - 0xfd)))
  else single? b

/-- The character of a cell in code page 932. The rows from 95 to 114 are for private use. -/
def windowsChar? (row cell : Nat) : Option Char :=
  if 95 ≤ row ∧ row ≤ 114 then some (Char.ofNat (0xe000 + 94 * (row - 95) + (cell - 1)))
  else (CharSet.windows932.char? row cell).or (CharSet.jisX0208.char? row cell)

/-- The text that some bytes encode in code page 932. -/
def decodeWindows : List UInt8 → Decoded :=
  decodeAll "cp932" <| read 0xfc windowsSingle? fun row cell =>
    .ofChar? 1 (windowsChar? row cell)

/-- The character of a single byte with the Roman letters of JIS X 0201, which has no backslash and
no tilde. -/
def romanSingle? (b : UInt8) : Option Char :=
  if b = 0x5c then some '¥' else if b = 0x7e then some '‾' else single? b

/-- The row of the second plane that takes the place of a row after the first plane. -/
def secondPlaneRow (row : Nat) : Nat :=
  ([1, 8, 3, 4, 5, 12, 13, 14, 15] : List Nat).getD (row - 95) (row - 26)

/-- The reading of two bytes for a cell in an edition of JIS X 0213, with the second plane after the
first one. The first plane gives the backslash and the tilde that the Roman letters lack. -/
def readPlanes (edition : JisX0213.Edition) (row cell : Nat) : Reading Unit :=
  if (row, cell) = (1, 32) then .text ['\\'] 1 ()
  else if (row, cell) = (2, 18) then .text ['~'] 1 ()
  else if row ≤ 94 then JisX0213.readFirst edition row cell
  else .ofChar? 1 (JisX0213.second? edition (secondPlaneRow row) cell)

/-- The text that some bytes encode with an edition of JIS X 0213. -/
def decodeJisX0213 (encoding : String) (edition : JisX0213.Edition) : List UInt8 → Decoded :=
  decodeAll encoding (read 0xfc romanSingle? (readPlanes edition))

end ShiftJis

end BlockLang.Multibyte
