import BlockLang.Encoding.CodePage.Basic

/-! # EBCDIC code pages

The code pages of the EBCDIC family, in which letters and digits have other places than in ASCII. -/

namespace BlockLang.CodePage

/-- The code page `cp037`, as it differs from `latin1`. -/
def cp037 : CodePage :=
  latin1
    |> patch 0x04 "\u009c\x09\u0086\x7f\u0097\u008d\u008e"
    |> patch 0x14 "\u009d\u0085\x08\u0087\x18\x19\u0092\u008f"
    |> patch 0x20 "\u0080\u0081\u0082\u0083\u0084\x0a\x17\x1b\u0088\u0089\u008a\u008b\u008c\x05"
    |> patch 0x2e "\x06\x07\u0090\u0091\x16\u0093\u0094\u0095\u0096\x04\u0098\u0099\u009a\u009b"
    |> patch 0x3c "\x14\x15\u009e\x1a \u00a0âäàáãåçñ¢.<(+|&éêëèíîïìß!$*);¬-/ÂÄÀÁÃÅÇÑ¦,%_>?øÉÊËÈ"
    |> patch 0x75 "ÍÎÏÌ`:#@'=\"Øabcdefghi«»ðýþ±°jklmnopqrªºæ¸Æ¤µ~stuvwxyz¡¿ÐÝÞ®^£¥·©§¶¼½¾[]¯¨´×"
    |> patch 0xc0 "\x7bABCDEFGHI\u00adôöòóõ\x7dJKLMNOPQR¹ûüùúÿ\\÷STUVWXYZ²ÔÖÒÓÕ0123456789³ÛÜÙÚ"
    |> patch 0xff "\u009f"

/-- The code page `cp500`, as it differs from `cp037`. -/
def cp500 : CodePage :=
  cp037
    |> patch 0x4a "["
    |> patch 0x4f "!"
    |> patch 0x5a "]"
    |> patch 0x5f "^"
    |> patch 0xb0 "¢"
    |> patch 0xba "¬|"

/-- The code page `cp1140`, as it differs from `cp037`. -/
def cp1140 : CodePage :=
  cp037
    |> patch 0x9f "€"

/-- The code page `cp273`, as it differs from `cp500`. -/
def cp273 : CodePage :=
  cp500
    |> patch 0x43 "\x7b"
    |> patch 0x4a "Ä"
    |> patch 0x59 "~Ü"
    |> patch 0x63 "["
    |> patch 0x6a "ö"
    |> patch 0x7c "§"
    |> patch 0xa1 "ß"
    |> patch 0xb5 "@"
    |> patch 0xbc "‾¨´×ä"
    |> patch 0xcc "¦òóõü"
    |> patch 0xdc "\x7dùúÿÖ"
    |> patch 0xec "\\"
    |> patch 0xfc "]"

/-- The code page `cp1026`, as it differs from `cp500`. -/
def cp1026 : CodePage :=
  cp500
    |> patch 0x48 "\x7bñÇ"
    |> patch 0x5a "Ğİ"
    |> patch 0x68 "[Ñş"
    |> patch 0x79 "ı:ÖŞ'=Ü"
    |> patch 0x8c "\x7d`¦"
    |> patch 0xa1 "ö"
    |> patch 0xac "]$@"
    |> patch 0xc0 "ç"
    |> patch 0xcc "~òóõğ"
    |> patch 0xdc "\\ùúÿü"
    |> patch 0xec "#"
    |> patch 0xfc "\""

/-- The code page `cp424`, as it differs from `cp037`. -/
def cp424 : CodePage :=
  cp037
    |> patch 0x41 "\u05d0\u05d1\u05d2\u05d3\u05d4\u05d5\u05d6\u05d7\u05d8"
    |> patch 0x51 "\u05d9\u05da\u05db\u05dc\u05dd\u05de\u05df\u05e0\u05e1"
    |> patch 0x62 "\u05e2\u05e3\u05e4\u05e5\u05e6\u05e7\u05e8\u05e9"
    |> patch 0x70 "\ufffe\u05ea\ufffe\ufffe\u00a0\ufffe\ufffe\ufffe‗"
    |> patch 0x80 "\ufffe"
    |> patch 0x8c "\ufffe\ufffe\ufffe"
    |> patch 0x9a "\ufffe\ufffe\ufffe¸\ufffe"
    |> patch 0xaa "\ufffe\ufffe\ufffe\ufffe\ufffe"
    |> patch 0xcb "\ufffe\ufffe\ufffe\ufffe\ufffe"
    |> patch 0xdb "\ufffe\ufffe\ufffe\ufffe\ufffe"
    |> patch 0xeb "\ufffe\ufffe\ufffe\ufffe\ufffe"
    |> patch 0xfb "\ufffe\ufffe\ufffe\ufffe"

/-- The code page `cp875`, as it differs from `cp500`. -/
def cp875 : CodePage :=
  cp500
    |> patch 0x41 "ΑΒΓΔΕΖΗΘΙ"
    |> patch 0x51 "ΚΛΜΝΞΟΠΡΣ"
    |> patch 0x62 "ΤΥΦΧΨΩΪΫ|"
    |> patch 0x70 "¨ΆΈΉ\u00a0ΊΌΎΏ"
    |> patch 0x80 "΅"
    |> patch 0x8a "αβγδεζ"
    |> patch 0x9a "ηθικλμ´"
    |> patch 0xaa "νξοπρσ£άέήϊίόύϋώςτυφχψ"
    |> patch 0xcb "ωΐΰ‘―"
    |> patch 0xda "±½\x1a·’¦\\\x1a"
    |> patch 0xeb "§\x1a\x1a«¬"
    |> patch 0xfb "©\x1a\x1a»"

end BlockLang.CodePage
