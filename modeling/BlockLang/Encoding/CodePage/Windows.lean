import BlockLang.Encoding.CodePage.Basic

/-! # Windows code pages

The code pages of the Windows family, and those built on them for handhelds and for Kazakh. -/

namespace BlockLang.CodePage

/-- The code page `cp1252`, as it differs from `latin1`. -/
def cp1252 : CodePage :=
  latin1
    |> patch 0x80 "€\ufffe‚ƒ„…†‡ˆ‰Š‹Œ\ufffeŽ\ufffe\ufffe‘’“”•–—˜™š›œ\ufffežŸ"

/-- The code page `cp1251`, as it differs from `cp1252`. -/
def cp1251 : CodePage :=
  cp1252
    |> patch 0x80 "ЂЃ‚ѓ"
    |> patch 0x88 "€‰Љ‹ЊЌЋЏђ"
    |> patch 0x98 "\ufffe™љ›њќћџ\u00a0ЎўЈ¤Ґ¦§Ё©Є"
    |> patch 0xaf "Ї°±Ііґµ¶·ё№є»јЅѕїАБВГДЕЖЗИЙКЛМНОПРСТУФХЦЧШЩЪЫЬЭЮЯабвгдежзийклмнопрстуфхцчшщъ"
    |> patch 0xfb "ыьэюя"

/-- The code page `palmos`, as it differs from `cp1252`. -/
def palmos : CodePage :=
  cp1252
    |> patch 0x81 "\u0081"
    |> patch 0x8d "♦♣♥♠"
    |> patch 0x9b "\u009bœ\u009d\u009e"

/-- The code page `cp1253`, as it differs from `cp1252`. -/
def cp1253 : CodePage :=
  cp1252
    |> patch 0x88 "\ufffe‰\ufffe‹\ufffe\ufffe\ufffe"
    |> patch 0x98 "\ufffe™\ufffe›\ufffe\ufffe\ufffe\ufffe\u00a0΅Ά"
    |> patch 0xaa "\ufffe"
    |> patch 0xaf "―"
    |> patch 0xb4 "΄µ¶·ΈΉΊ»Ό½ΎΏΐΑΒΓΔΕΖΗΘΙΚΛΜΝΞΟΠΡ\ufffeΣΤΥΦΧΨΩΪΫάέήίΰαβγδεζηθικλμνξοπρςστυφχψωϊ"
    |> patch 0xfb "ϋόύώ\ufffe"

/-- The code page `cp1250`, as it differs from `cp1252`. -/
def cp1250 : CodePage :=
  cp1252
    |> patch 0x83 "\ufffe"
    |> patch 0x88 "\ufffe‰Š‹ŚŤŽŹ"
    |> patch 0x98 "\ufffe™š›śťžź\u00a0ˇ˘Ł¤Ą"
    |> patch 0xaa "Ş"
    |> patch 0xaf "Ż°±˛ł"
    |> patch 0xb9 "ąş»Ľ˝ľżŔÁÂĂÄĹĆÇČÉĘËĚÍÎĎĐŃŇÓÔŐÖ×ŘŮÚŰÜÝŢßŕáâăäĺćçčéęëěíîďđńňóôőö÷řůúűüýţ˙"

/-- The code page `cp1254`, as it differs from `cp1252`. -/
def cp1254 : CodePage :=
  cp1252
    |> patch 0x8e "\ufffe"
    |> patch 0x9e "\ufffe"
    |> patch 0xd0 "Ğ"
    |> patch 0xdd "İŞ"
    |> patch 0xf0 "ğ"
    |> patch 0xfd "ış"

/-- The code page `cp1258`, as it differs from `cp1254`. -/
def cp1258 : CodePage :=
  cp1254
    |> patch 0x8a "\ufffe"
    |> patch 0x9a "\ufffe"
    |> patch 0xc3 "Ă"
    |> patch 0xcc "\u0300ÍÎÏĐÑ\u0309ÓÔƠ"
    |> patch 0xdd "Ư\u0303"
    |> patch 0xe3 "ă"
    |> patch 0xec "\u0301íîïđñ\u0323óôơ"
    |> patch 0xfd "ư₫"

/-- The code page `kz1048`, as it differs from `cp1251`. -/
def kz1048 : CodePage :=
  cp1251
    |> patch 0x8d "ҚҺ"
    |> patch 0x9d "қһџ\u00a0ҰұӘ¤Ө"
    |> patch 0xaa "Ғ"
    |> patch 0xaf "Ү"
    |> patch 0xb4 "ө"
    |> patch 0xba "ғ»әҢңү"

/-- The code page `ptcp154`, as it differs from `cp1251`. -/
def ptcp154 : CodePage :=
  cp1251
    |> patch 0x80 "ҖҒӮғ„…ҶҮҲүҠӢҢҚҺҸҗ"
    |> patch 0x98 "ҳҷҡӣңқһҹ"
    |> patch 0xa4 "ӨҘҰ§Ё©Ә«¬ӯ®Ҝ°ұІіҙө"
    |> patch 0xba "ә»јҪҫҝ"

/-- The code page `cp1256`, as it differs from `cp1252`. -/
def cp1256 : CodePage :=
  cp1252
    |> patch 0x81 "\u067e"
    |> patch 0x8a "\u0679‹Œ\u0686\u0698\u0688\u06af"
    |> patch 0x98 "\u06a9™\u0691›œ\u200c\u200d\u06ba\u00a0،"
    |> patch 0xaa "\u06be"
    |> patch 0xba "\u061b"
    |> patch 0xbf "\u061f\u06c1\u0621\u0622\u0623\u0624\u0625\u0626\u0627\u0628\u0629\u062a"
    |> patch 0xcb "\u062b\u062c\u062d\u062e\u062f\u0630\u0631\u0632\u0633\u0634\u0635\u0636×"
    |> patch 0xd8 "\u0637\u0638\u0639\u063a\u0640\u0641\u0642\u0643à\u0644â\u0645\u0646\u0647"
    |> patch 0xe6 "\u0648"
    |> patch 0xec "\u0649\u064aîï\u064b\u064c\u064d\u064eô\u064f\u0650÷\u0651ù\u0652ûü\u200e"
    |> patch 0xfe "\u200f\u06d2"

/-- The code page `cp1257`, as it differs from `cp1252`. -/
def cp1257 : CodePage :=
  cp1252
    |> patch 0x83 "\ufffe"
    |> patch 0x88 "\ufffe‰\ufffe‹\ufffe¨ˇ¸"
    |> patch 0x98 "\ufffe™\ufffe›\ufffe¯˛\ufffe\u00a0\ufffe¢£¤\ufffe¦§Ø©Ŗ"
    |> patch 0xaf "Æ"
    |> patch 0xb8 "ø¹ŗ"
    |> patch 0xbf "æĄĮĀĆÄÅĘĒČÉŹĖĢĶĪĻŠŃŅÓŌÕÖ×ŲŁŚŪÜŻŽßąįāćäåęēčéźėģķīļšńņóōõö÷ųłśūüżž˙"

/-- The code page `cp1255`, as it differs from `cp1258`. -/
def cp1255 : CodePage :=
  cp1258
    |> patch 0x8c "\ufffe"
    |> patch 0x9c "\ufffe\ufffe\ufffe\ufffe"
    |> patch 0xa4 "₪"
    |> patch 0xaa "×"
    |> patch 0xba "÷"
    |> patch 0xc0 "\u05b0\u05b1\u05b2\u05b3\u05b4\u05b5\u05b6\u05b7\u05b8\u05b9\ufffe\u05bb"
    |> patch 0xcc "\u05bc\u05bd\u05be\u05bf\u05c0\u05c1\u05c2\u05c3\u05f0\u05f1\u05f2\u05f3"
    |> patch 0xd8 "\u05f4\ufffe\ufffe\ufffe\ufffe\ufffe\ufffe\ufffe\u05d0\u05d1\u05d2\u05d3"
    |> patch 0xe4 "\u05d4\u05d5\u05d6\u05d7\u05d8\u05d9\u05da\u05db\u05dc\u05dd\u05de\u05df"
    |> patch 0xf0 "\u05e0\u05e1\u05e2\u05e3\u05e4\u05e5\u05e6\u05e7\u05e8\u05e9\u05ea\ufffe"
    |> patch 0xfc "\ufffe\u200e\u200f\ufffe"

end BlockLang.CodePage
