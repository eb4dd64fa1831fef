import BlockLang.Encoding.CodePage.Basic

/-! # Other code pages

The code pages that belong to no family. -/

namespace BlockLang.CodePage

/-- The code page `hp_roman8`, as it differs from `latin1`. -/
def hpRoman8 : CodePage :=
  latin1
    |> patch 0xa1 "ÀÂÈÊËÎÏ´ˋˆ¨˜ÙÛ₤¯Ýý°ÇçÑñ¡¿¤£¥§ƒ¢âêôûáéóúàèòùäëöüÅîØÆåíøæÄìÖÜÉïßÔÁÃãÐðÍÌÓÒÕõŠš"
    |> patch 0xed "ÚŸÿÞþ·µ¶¾—¼½ªº«■»±\ufffe"

end BlockLang.CodePage
