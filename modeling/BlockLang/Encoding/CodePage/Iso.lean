import BlockLang.Encoding.CodePage.Basic

/-! # ISO 8859 and its kin

The parts of ISO 8859 and the Thai code pages that extend one of them. -/

namespace BlockLang.CodePage

/-- The code page `iso8859_15`, as it differs from `latin1`. -/
def iso8859Part15 : CodePage :=
  latin1
    |> patch 0xa4 "€¥Š§š"
    |> patch 0xb4 "Žµ¶·ž¹º»ŒœŸ"

/-- The code page `iso8859_9`, as it differs from `latin1`. -/
def iso8859Part9 : CodePage :=
  latin1
    |> patch 0xd0 "Ğ"
    |> patch 0xdd "İŞ"
    |> patch 0xf0 "ğ"
    |> patch 0xfd "ış"

/-- The code page `iso8859_11`, as it differs from `latin1`. -/
def iso8859Part11 : CodePage :=
  latin1
    |> patch 0xa1 "กขฃคฅฆงจฉชซฌญฎฏฐฑฒณดตถทธนบปผฝพฟภมยรฤลฦวศษสหฬอฮฯะ\u0e31าำ\u0e34\u0e35\u0e36"
    |> patch 0xd7 "\u0e37\u0e38\u0e39\u0e3a\ufffe\ufffe\ufffe\ufffe฿เแโใไๅๆ\u0e47\u0e48\u0e49"
    |> patch 0xea "\u0e4a\u0e4b\u0e4c\u0e4d\u0e4e๏๐๑๒๓๔๕๖๗๘๙๚๛\ufffe\ufffe\ufffe\ufffe"

/-- The code page `iso8859_7`, as it differs from `latin1`. -/
def iso8859Part7 : CodePage :=
  latin1
    |> patch 0xa1 "‘’£€₯"
    |> patch 0xaa "ͺ«¬\u00ad\ufffe―"
    |> patch 0xb4 "΄΅Ά·ΈΉΊ»Ό½ΎΏΐΑΒΓΔΕΖΗΘΙΚΛΜΝΞΟΠΡ\ufffeΣΤΥΦΧΨΩΪΫάέήίΰαβγδεζηθικλμνξοπρςστυφχψωϊ"
    |> patch 0xfb "ϋόύώ\ufffe"

/-- The code page `iso8859_6`, as it differs from `latin1`. -/
def iso8859Part6 : CodePage :=
  latin1
    |> patch 0xa1 "\ufffe\ufffe\ufffe¤\ufffe\ufffe\ufffe\ufffe\ufffe\ufffe\ufffe،\u00ad\ufffe"
    |> patch 0xaf "\ufffe\ufffe\ufffe\ufffe\ufffe\ufffe\ufffe\ufffe\ufffe\ufffe\ufffe\ufffe"
    |> patch 0xbb "\u061b\ufffe\ufffe\ufffe\u061f\ufffe\u0621\u0622\u0623\u0624\u0625\u0626"
    |> patch 0xc7 "\u0627\u0628\u0629\u062a\u062b\u062c\u062d\u062e\u062f\u0630\u0631\u0632"
    |> patch 0xd3 "\u0633\u0634\u0635\u0636\u0637\u0638\u0639\u063a\ufffe\ufffe\ufffe\ufffe"
    |> patch 0xdf "\ufffe\u0640\u0641\u0642\u0643\u0644\u0645\u0646\u0647\u0648\u0649\u064a"
    |> patch 0xeb "\u064b\u064c\u064d\u064e\u064f\u0650\u0651\u0652\ufffe\ufffe\ufffe\ufffe"
    |> patch 0xf7 "\ufffe\ufffe\ufffe\ufffe\ufffe\ufffe\ufffe\ufffe\ufffe"

/-- The code page `iso8859_8`, as it differs from `latin1`. -/
def iso8859Part8 : CodePage :=
  latin1
    |> patch 0xa1 "\ufffe"
    |> patch 0xaa "×"
    |> patch 0xba "÷"
    |> patch 0xbf "\ufffe\ufffe\ufffe\ufffe\ufffe\ufffe\ufffe\ufffe\ufffe\ufffe\ufffe\ufffe"
    |> patch 0xcb "\ufffe\ufffe\ufffe\ufffe\ufffe\ufffe\ufffe\ufffe\ufffe\ufffe\ufffe\ufffe"
    |> patch 0xd7 "\ufffe\ufffe\ufffe\ufffe\ufffe\ufffe\ufffe\ufffe‗\u05d0\u05d1\u05d2\u05d3"
    |> patch 0xe4 "\u05d4\u05d5\u05d6\u05d7\u05d8\u05d9\u05da\u05db\u05dc\u05dd\u05de\u05df"
    |> patch 0xf0 "\u05e0\u05e1\u05e2\u05e3\u05e4\u05e5\u05e6\u05e7\u05e8\u05e9\u05ea\ufffe"
    |> patch 0xfc "\ufffe\u200e\u200f\ufffe"

/-- The code page `iso8859_5`, as it differs from `latin1`. -/
def iso8859Part5 : CodePage :=
  latin1
    |> patch 0xa1 "ЁЂЃЄЅІЇЈЉЊЋЌ\u00adЎЏАБВГДЕЖЗИЙКЛМНОПРСТУФХЦЧШЩЪЫЬЭЮЯабвгдежзийклмнопрстуфхцч"
    |> patch 0xe8 "шщъыьэюя№ёђѓєѕіїјљњћќ§ўџ"

/-- The code page `iso8859_2`, as it differs from `latin1`. -/
def iso8859Part2 : CodePage :=
  latin1
    |> patch 0xa1 "Ą˘Ł¤ĽŚ§¨ŠŞŤŹ\u00adŽŻ°ą˛ł´ľśˇ¸šşťź˝žżŔÁÂĂÄĹĆÇČÉĘËĚÍÎĎĐŃŇÓÔŐÖ×ŘŮÚŰÜÝŢßŕáâăäĺćç"
    |> patch 0xe8 "čéęëěíîďđńňóôőö÷řůúűüýţ˙"

/-- The code page `tis_620`, as it differs from `iso8859Part11`. -/
def tis620 : CodePage :=
  iso8859Part11
    |> patch 0xa0 "\ufffe"

/-- The code page `iso8859_14`, as it differs from `iso8859Part15`. -/
def iso8859Part14 : CodePage :=
  iso8859Part15
    |> patch 0xa1 "Ḃḃ£ĊċḊ§Ẁ©ẂḋỲ\u00ad®ŸḞḟĠġṀṁ¶ṖẁṗẃṠỳẄẅṡ"
    |> patch 0xd0 "Ŵ"
    |> patch 0xd7 "Ṫ"
    |> patch 0xde "Ŷ"
    |> patch 0xf0 "ŵ"
    |> patch 0xf7 "ṫ"
    |> patch 0xfe "ŷ"

/-- The code page `cp874`, as it differs from `iso8859Part11`. -/
def cp874 : CodePage :=
  iso8859Part11
    |> patch 0x80 "€\ufffe\ufffe\ufffe\ufffe…\ufffe\ufffe\ufffe\ufffe\ufffe\ufffe\ufffe\ufffe"
    |> patch 0x8e "\ufffe\ufffe\ufffe‘’“”•–—\ufffe\ufffe\ufffe\ufffe\ufffe\ufffe\ufffe\ufffe"

/-- The code page `iso8859_16`, as it differs from `iso8859Part15`. -/
def iso8859Part16 : CodePage :=
  iso8859Part15
    |> patch 0xa1 "ĄąŁ€„"
    |> patch 0xaa "Ș«Ź\u00adźŻ°±ČłŽ”¶·žčș"
    |> patch 0xbf "żÀÁÂĂÄĆ"
    |> patch 0xd0 "ĐŃÒÓÔŐÖŚŰ"
    |> patch 0xdd "ĘȚ"
    |> patch 0xe3 "ăäć"
    |> patch 0xf0 "đńòóôőöśű"
    |> patch 0xfd "ęț"

/-- The code page `iso8859_3`, as it differs from `iso8859Part9`. -/
def iso8859Part3 : CodePage :=
  iso8859Part9
    |> patch 0xa1 "Ħ˘£¤\ufffeĤ§¨İŞĞĴ\u00ad\ufffeŻ°ħ"
    |> patch 0xb6 "ĥ·¸ışğĵ½\ufffeżÀÁÂ\ufffeÄĊĈ"
    |> patch 0xd0 "\ufffe"
    |> patch 0xd5 "ĠÖ×Ĝ"
    |> patch 0xdd "ŬŜ"
    |> patch 0xe3 "\ufffeäċĉ"
    |> patch 0xf0 "\ufffe"
    |> patch 0xf5 "ġö÷ĝ"
    |> patch 0xfd "ŭŝ˙"

/-- The code page `iso8859_10`, as it differs from `iso8859Part15`. -/
def iso8859Part10 : CodePage :=
  iso8859Part15
    |> patch 0xa1 "ĄĒĢĪĨĶ§ĻĐŠŦŽ\u00adŪŊ°ąēģīĩķ·ļđšŧž―ūŋĀ"
    |> patch 0xc7 "ĮČÉĘËĖ"
    |> patch 0xd1 "ŅŌ"
    |> patch 0xd7 "ŨØŲ"
    |> patch 0xe0 "ā"
    |> patch 0xe7 "įčéęëė"
    |> patch 0xf1 "ņō"
    |> patch 0xf7 "ũøų"
    |> patch 0xff "ĸ"

/-- The code page `iso8859_4`, as it differs from `iso8859Part10`. -/
def iso8859Part4 : CodePage :=
  iso8859Part10
    |> patch 0xa2 "ĸŖ¤ĨĻ§¨ŠĒĢŦ\u00adŽ¯°ą˛ŗ´ĩļˇ¸šēģŧŊž"
    |> patch 0xcf "ĪĐŅŌĶÔÕÖ×"
    |> patch 0xdd "ŨŪ"
    |> patch 0xef "īđņōķôõö÷"
    |> patch 0xfd "ũū˙"

/-- The code page `iso8859_13`, as it differs from `iso8859Part9`. -/
def iso8859Part13 : CodePage :=
  iso8859Part9
    |> patch 0xa1 "”¢£¤„¦§Ø©Ŗ"
    |> patch 0xaf "Æ"
    |> patch 0xb4 "“µ¶·ø¹ŗ"
    |> patch 0xbf "æĄĮĀĆÄÅĘĒČÉŹĖĢĶĪĻŠŃŅÓŌÕÖ×ŲŁŚŪÜŻŽßąįāćäåęēčéźėģķīļšńņóōõö÷ųłśūüżž’"

end BlockLang.CodePage
