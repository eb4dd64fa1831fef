import BlockLang.Encoding.CharSet.Gb2312
import BlockLang.Encoding.CharSet.KsX1001
import BlockLang.Encoding.CodePage.Iso
import BlockLang.Encoding.Multibyte.Japanese

/-! # ISO 2022

Encodings in seven bits that switch between character sets. An *escape sequence* designates a set as
the first, second or third one; bytes are read in the first one, between a shift out and a shift in
in the second one, and a single character after a prefix in the third one.

* `Graphic`: the sets that can be designated.
* `Variant`: an encoding: which sets it has by which final bytes, and which ways to use them.
* `State`: the sets in use.
* `read`: the reading of a character or an escape sequence. -/

namespace BlockLang.Multibyte.Iso2022

/-- The sets that can be designated. -/
inductive Graphic
  | ascii
  | roman
  | katakana
  | jisX0208
  | jisX0212
  | jisX0213First (edition : JisX0213.Edition)
  | jisX0213Second
  | gb2312
  | ksX1001
  | latin1
  | greek
  deriving DecidableEq, Repr

namespace Graphic

/-- The texts of the sets with one byte to a character. -/
def single? (g : Graphic) (b : UInt8) : Option Char :=
  match g with
  | roman => ShiftJis.romanSingle? b
  | katakana => katakana? (b + 0x80)
  | _ => none

/-- Whether a set has two bytes to a character. -/
def isDouble : Graphic → Bool
  | ascii | roman | katakana | latin1 | greek => false
  | _ => true

/-- The text of a cell of a set with two bytes to a character. -/
def cell? (g : Graphic) (row cell : Nat) : Option (List Char) :=
  let one := Option.map fun c : Char => [c]
  match g with
  | jisX0208 => one (CharSet.jisX0208.char? row cell)
  | jisX0212 => one (CharSet.jisX0212.char? row cell)
  | jisX0213First edition =>
    if (row, cell) = (2, 18) then some ['~'] else JisX0213.first? edition row cell
  | jisX0213Second => one (JisX0213.second? .of2004 row cell)
  | gb2312 => one (CharSet.gb2312.char? row cell)
  | ksX1001 => one (CharSet.ksX1001.char? row cell)
  | _ => none

/-- Whether a set can be read as the third one. -/
def isThird : Graphic → Bool
  | ascii | latin1 | greek => true
  | _ => false

/-- The character of a single byte after the prefix for the third set. -/
def third? (g : Graphic) (b : UInt8) : Option Char :=
  match g with
  | ascii => if b < 0x80 then some (Char.ofNat b.toNat) else none
  | latin1 => if b < 0x80 then some (Char.ofNat (b.toNat + 0x80)) else none
  | greek =>
    if b ∈ ([0x24, 0x25, 0x2a] : List UInt8) then none
    else CodePage.iso8859Part7.char? (b + 0x80)
  | _ => none

end Graphic

/-- An encoding: its name, its sets by the number of their bytes and their final bytes, whether it
has shifts, whether it has a third set, and whether it takes a revision mark before JIS X 0208. -/
structure Variant where
  encoding : String
  sets : List ((Bool × Char) × Graphic)
  hasShifts : Bool := false
  hasThird : Bool := false
  hasRevisions : Bool := true
  deriving DecidableEq, Repr

/-- The sets in use. A *foreign* escape sequence stands for itself up to its final byte. -/
structure State where
  first : Graphic := .ascii
  second : Graphic := .ascii
  third : Graphic := .ascii
  shifted : Bool := false
  inForeign : Bool := false
  deriving DecidableEq, Repr

/-- Whether a byte ends an escape sequence. -/
def isFinal (b : UInt8) : Bool := 0x40 ≤ b && b ≤ 0x5a

/-- How an escape sequence ends. -/
inductive EscapeEnd
  | incomplete
  | unterminated
  | after (length : Nat)
  deriving DecidableEq, Repr

/-- How an escape sequence ends whose first bytes have been passed, with room for some more. A
revision mark is no end. -/
def escapeEnd (hasRevisions : Bool) (room passed : Nat) : List UInt8 → EscapeEnd
  | [] => if room = 0 then .unterminated else .incomplete
  | b :: bytes =>
    if room = 0 then .unterminated
    else if isFinal b then .after (passed + 1)
    else
      match bytes with
      | 0x40 :: rest =>
        if hasRevisions ∧ b = 0x26 then
          escapeEnd hasRevisions (room - 3) (passed + 3) (rest.drop 1)
        else escapeEnd hasRevisions (room - 1) (passed + 1) (0x40 :: rest)
      | bytes => escapeEnd hasRevisions (room - 1) (passed + 1) bytes
termination_by bytes => bytes.length
decreasing_by
  all_goals simp only [List.length_drop, List.length_cons]; omega

/-- The places for designated sets. -/
inductive Slot
  | first
  | second
  | third
  deriving DecidableEq, Repr

/-- A state with another set in a place. -/
def State.designate (s : State) (slot : Slot) (g : Graphic) : State :=
  match slot with
  | .first => { s with first := g }
  | .second => { s with second := g }
  | .third => { s with third := g }

/-- The place, the number of bytes and the final byte that an escape sequence tells. -/
def Variant.designation? (v : Variant) : List UInt8 → Option (Slot × Bool × UInt8)
  | [0x24, f] => some (.first, true, f)
  | [0x28, f] => some (.first, false, f)
  | [0x29, f] => some (.second, false, f)
  | [0x2e, f] => if v.hasThird then some (.third, false, f) else none
  | [0x24, 0x28, f] => some (.first, true, f)
  | [0x24, 0x29, f] => some (.second, true, f)
  | [_, _, 0x1b, 0x24, 0x42] => if v.hasRevisions then some (.first, true, 0x42) else none
  | _ => none

/-- The set that a final byte stands for. ASCII is in every encoding. -/
def Variant.set? (v : Variant) (double : Bool) (final : UInt8) : Option Graphic :=
  if double = false ∧ final = 0x42 then some .ascii
  else v.sets.lookup (double, Char.ofNat final.toNat)

/-- The reading of an escape sequence that designates a set. -/
def Variant.readDesignation (v : Variant) (s : State) (rest : List UInt8) : Reading State :=
  match escapeEnd v.hasRevisions 15 0 rest with
  | .incomplete => .incomplete
  | .unterminated => .illegal 0
  | .after length =>
    let set? := (v.designation? (rest.take length)).bind fun (slot, double, final) =>
      (v.set? double final).map fun g => s.designate slot g
    match set? with
    | some next => .text [] length next
    | none => .illegal length

/-- The reading of what an escape character starts. -/
def Variant.readEscape (v : Variant) (s : State) (rest : List UInt8) : Reading State :=
  match rest with
  | [] => .incomplete
  | b :: more =>
    if b ∈ ([0x24, 0x26, 0x28, 0x29, 0x2e] : List UInt8) then v.readDesignation s rest
    else if v.hasThird ∧ b = 0x4e then
      match more with
      | [] => .incomplete
      | c :: _ =>
        if s.third.isThird then
          match s.third.third? c with
          | some char => .text [char] 2 s
          | none => .illegal 2
        else .failure .unreadableSet
    else .text ['\x1b'] 0 { s with inForeign := true }

/-- The reading of a graphic character. -/
def readGraphic (s : State) (g : Graphic) (b : UInt8) (rest : List UInt8) : Reading State :=
  if g.isDouble then
    match rest with
    | [] => .incomplete
    | c :: _ =>
      match g.cell? (b.toNat - 0x20) (c.toNat - 0x20) with
      | some cs => .text cs 1 s
      | none => .illegal 1
  else
    match g.single? b with
    | some c => .text [c] 0 s
    | none => .illegal 0

/-- The reading of a character, a shift or an escape sequence. The end of a line ends a shift. -/
def Variant.read (v : Variant) (s : State) (b : UInt8) (rest : List UInt8) : Reading State :=
  let asItself := [Char.ofNat b.toNat]
  if s.inForeign then .text asItself 0 { s with inForeign := !isFinal b }
  else if b = 0x1b then v.readEscape s rest
  else if v.hasShifts ∧ b = 0x0f then .text [] 0 { s with shifted := false }
  else if v.hasShifts ∧ b = 0x0e then .text [] 0 { s with shifted := true }
  else if b = 0x0a then .text asItself 0 { s with shifted := false }
  else if b < 0x20 then .text asItself 0 s
  else if 0x80 ≤ b then .illegal 0
  else
    let g := if s.shifted then s.second else s.first
    if g = .ascii then .text asItself 0 s else readGraphic s g b rest

/-- The text that some bytes encode. -/
def Variant.decode (v : Variant) : List UInt8 → Decoded := decodeFrom v.encoding v.read 0 {}

/-! ### The encodings -/

/-- The Korean encoding, with shifts. -/
def korean : Variant where
  encoding := "iso2022_kr"
  sets := [((true, 'C'), .ksX1001)]
  hasShifts := true
  hasRevisions := false

/-- The sets of the Japanese encodings. -/
def japaneseSets : List ((Bool × Char) × Graphic) :=
  [((true, 'B'), .jisX0208), ((false, 'J'), .roman), ((true, '@'), .jisX0208)]

/-- The Japanese encoding. -/
def japanese : Variant where
  encoding := "iso2022_jp"
  sets := japaneseSets

/-- The Japanese encoding with a supplement. -/
def japanese1 : Variant where
  encoding := "iso2022_jp_1"
  sets := ((true, 'D'), .jisX0212) :: japaneseSets

/-- The Japanese encoding with sets of other languages. -/
def japanese2 : Variant where
  encoding := "iso2022_jp_2"
  sets :=
    [((true, 'D'), .jisX0212), ((true, 'C'), .ksX1001), ((true, 'A'), .gb2312),
     ((false, 'A'), .latin1), ((false, 'F'), .greek)] ++ japaneseSets
  hasThird := true

/-- The Japanese encoding with the edition of 2000 of JIS X 0213. -/
def japanese3 : Variant where
  encoding := "iso2022_jp_3"
  sets :=
    [((true, 'O'), .jisX0213First .of2000), ((true, 'B'), .jisX0208),
     ((true, 'P'), .jisX0213Second)]

/-- The Japanese encoding with the edition of 2004 of JIS X 0213. -/
def japanese2004 : Variant where
  encoding := "iso2022_jp_2004"
  sets :=
    [((true, 'Q'), .jisX0213First .of2004), ((true, 'B'), .jisX0208),
     ((true, 'P'), .jisX0213Second)]

/-- The Japanese encoding with narrow katakana. -/
def japaneseExtended : Variant where
  encoding := "iso2022_jp_ext"
  sets := [((true, 'D'), .jisX0212), ((false, 'I'), .katakana)] ++ japaneseSets

end BlockLang.Multibyte.Iso2022
