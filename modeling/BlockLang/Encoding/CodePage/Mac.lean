import BlockLang.Encoding.CodePage.Basic

/-! # Macintosh code pages

The code pages of the Macintosh family. -/

namespace BlockLang.CodePage

/-- The code page `mac_roman`, as it differs from `latin1`. -/
def macRoman : CodePage :=
  latin1
    |> patch 0x80 "ÄÅÇÉÑÖÜáàâäãåçéèêëíìîïñóòôöõúùûü†°¢£§•¶ß®©™´¨≠ÆØ∞±≤≥¥µ∂∑∏π∫ªºΩæø¿¡¬√ƒ≈∆«»…"
    |> patch 0xca "\u00a0ÀÃÕŒœ–—“”‘’÷◊ÿŸ⁄€‹›ﬁﬂ‡·‚„‰ÂÊÁËÈÍÎÏÌÓÔ\uf8ffÒÚÛÙıˆ˜¯˘˙˚¸˝˛ˇ"

/-- The code page `mac_iceland`, as it differs from `macRoman`. -/
def macIceland : CodePage :=
  macRoman
    |> patch 0xa0 "Ý"
    |> patch 0xdc "ÐðÞþý"

/-- The code page `mac_romanian`, as it differs from `macRoman`. -/
def macRomanian : CodePage :=
  macRoman
    |> patch 0xae "ĂȘ"
    |> patch 0xbe "ăș"
    |> patch 0xde "Țț"

/-- The code page `mac_turkish`, as it differs from `macRoman`. -/
def macTurkish : CodePage :=
  macRoman
    |> patch 0xda "ĞğİıŞş"
    |> patch 0xf5 "\uf8a0"

/-- The code page `mac_croatian`, as it differs from `macRoman`. -/
def macCroatian : CodePage :=
  macRoman
    |> patch 0xa9 "Š"
    |> patch 0xae "Ž"
    |> patch 0xb4 "∆"
    |> patch 0xb9 "š"
    |> patch 0xbe "ž"
    |> patch 0xc6 "Ć«Č"
    |> patch 0xd0 "Đ"
    |> patch 0xd8 "\uf8ff©"
    |> patch 0xde "Æ»–"
    |> patch 0xe6 "ćÁč"
    |> patch 0xf0 "đ"
    |> patch 0xf9 "πË˚¸Êæ"

/-- The code page `mac_latin2`, as it differs from `macRoman`. -/
def macLatin2 : CodePage :=
  macRoman
    |> patch 0x81 "ĀāÉĄÖÜáąČäčĆćéŹźĎíďĒēĖóė"
    |> patch 0x9d "Ěěü†°Ę"
    |> patch 0xab "ę¨≠ģĮįĪ≤≥īĶ∂∑łĻļĽľĹĺŅņŃ¬√ńŇ"
    |> patch 0xcb "ňŐÕőŌ"
    |> patch 0xd8 "ōŔŕŘ‹›řŖŗŠ‚„šŚśÁŤťÍŽžŪÓÔūŮÚůŰűŲųÝýķŻŁżĢ"

/-- The code page `mac_greek`, as it differs from `macRoman`. -/
def macGreek : CodePage :=
  macRoman
    |> patch 0x81 "¹²É³ÖÜ΅àâä΄¨"
    |> patch 0x92 "£™îï•½‰ôö¦€"
    |> patch 0xa1 "ΓΔΘΛΞΠß®©ΣΪ§≠°·Α"
    |> patch 0xb5 "ΒΕΖΗΙΚΜΦΫΨΩάΝ¬ΟΡ≈Τ"
    |> patch 0xcb "ΥΧΆΈœ–―"
    |> patch 0xd7 "ΉΊΌΎέήίόΏύαβψδεφγηιξκλμνοπώρστθωςχυζϊϋΐΰ\u00ad"

/-- The code page `mac_cyrillic`, as it differs from `macRoman`. -/
def macCyrillic : CodePage :=
  macRoman
    |> patch 0x80 "АБВГДЕЖЗИЙКЛМНОПРСТУФХЦЧШЩЪЫЬЭЮЯ†°Ґ"
    |> patch 0xa7 "І®©™Ђђ≠Ѓѓ"
    |> patch 0xb4 "іµґЈЄєЇїЉљЊњјЅ"
    |> patch 0xcb "ЋћЌќѕ"
    |> patch 0xd7 "„ЎўЏџ№Ёёяабвгдежзийклмнопрстуфхцчшщъыьэю€"

/-- The code page `mac_arabic`, as it differs from `macCroatian`. -/
def macArabic : CodePage :=
  macCroatian
    |> patch 0x81 "\u00a0"
    |> patch 0x8b "\u06ba«"
    |> patch 0x93 "…"
    |> patch 0x98 "»ôö÷"
    |> patch 0xa0 " !\"#$٪&'()*+،-./\u0660\u0661\u0662\u0663\u0664\u0665\u0666\u0667\u0668"
    |> patch 0xb9 "\u0669:\u061b<=>\u061f❊\u0621\u0622\u0623\u0624\u0625\u0626\u0627\u0628"
    |> patch 0xc9 "\u0629\u062a\u062b\u062c\u062d\u062e\u062f\u0630\u0631\u0632\u0633\u0634"
    |> patch 0xd5 "\u0635\u0636\u0637\u0638\u0639\u063a[\\]^_\u0640\u0641\u0642\u0643\u0644"
    |> patch 0xe5 "\u0645\u0646\u0647\u0648\u0649\u064a\u064b\u064c\u064d\u064e\u064f\u0650"
    |> patch 0xf1 "\u0651\u0652\u067e\u0679\u0686\u06d5\u06a4\u06af\u0688\u0691\x7b|\x7d\u0698"
    |> patch 0xff "\u06d2"

/-- The code page `mac_farsi`, as it differs from `macArabic`. -/
def macFarsi : CodePage :=
  macArabic
    |> patch 0xb0 "۰۱۲۳۴۵۶۷۸۹"

end BlockLang.CodePage
