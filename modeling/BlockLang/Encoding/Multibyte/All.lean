import BlockLang.Encoding.Multibyte.Chinese
import BlockLang.Encoding.Multibyte.Iso2022
import BlockLang.Encoding.Multibyte.Korean

/-! # All encodings of several bytes to a character -/

namespace BlockLang

/-- The encodings of national character sets with several bytes to a character. -/
inductive Multibyte
  | big5
  | big5HongKong
  | cp932
  | cp949
  | cp950
  | eucJis2004
  | eucJisX0213
  | eucJp
  | eucKr
  | gb18030
  | gb2312
  | gbk
  | hz
  | iso2022 (variant : Multibyte.Iso2022.Variant)
  | johab
  | shiftJis
  | shiftJis2004
  | shiftJisX0213
  deriving DecidableEq, Repr

namespace Multibyte

/-- The encodings by their names. -/
def all : List (String × Multibyte) :=
  [("big5", big5), ("big5hkscs", big5HongKong), ("cp932", cp932), ("cp949", cp949),
   ("cp950", cp950), ("euc_jis_2004", eucJis2004), ("euc_jisx0213", eucJisX0213),
   ("euc_jp", eucJp), ("euc_kr", eucKr), ("gb18030", gb18030), ("gb2312", gb2312), ("gbk", gbk),
   ("hz", hz), ("johab", johab), ("shift_jis", shiftJis), ("shift_jis_2004", shiftJis2004),
   ("shift_jisx0213", shiftJisX0213)] ++
  [Iso2022.japanese, Iso2022.japanese1, Iso2022.japanese2, Iso2022.japanese2004,
   Iso2022.japanese3, Iso2022.japaneseExtended, Iso2022.korean].map
    fun v => (v.encoding, iso2022 v)

/-- The text that some bytes encode. -/
def decode : Multibyte → List UInt8 → Decoded
  | big5 => Big5.decode
  | big5HongKong => Big5.decodeHongKong
  | cp932 => ShiftJis.decodeWindows
  | cp949 => Uhc.decode
  | cp950 => Big5.decodeWindows
  | eucJis2004 => EucJp.decodeJisX0213 "euc_jis_2004" .of2004
  | eucJisX0213 => EucJp.decodeJisX0213 "euc_jisx0213" .of2000
  | eucJp => EucJp.decode
  | eucKr => EucKr.decode
  | gb18030 => Gb18030.decode
  | gb2312 => Gb2312.decode
  | gbk => Gbk.decode
  | hz => Hz.decode
  | iso2022 variant => variant.decode
  | johab => Johab.decode
  | shiftJis => ShiftJis.decode
  | shiftJis2004 => ShiftJis.decodeJisX0213 "shift_jis_2004" .of2004
  | shiftJisX0213 => ShiftJis.decodeJisX0213 "shift_jisx0213" .of2000

end Multibyte

end BlockLang
