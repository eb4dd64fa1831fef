import BlockLang.Encoding.CodePage.Basic

/-! # KOI-8

The KOI-8 code pages for Russian, Tajik and Ukrainian. -/

namespace BlockLang.CodePage

/-- The code page `koi8_r`, as it differs from `latin1`. -/
def koi8R : CodePage :=
  latin1
    |> patch 0x80 "─│┌┐└┘├┤┬┴┼▀▄█▌▐░▒▓⌠■∙√≈≤≥\u00a0⌡°²·÷═║╒ё╓╔╕╖╗╘╙╚╛╜╝╞╟╠╡Ё╢╣╤╥╦╧╨╩╪╫╬©юабцдеф"
    |> patch 0xc7 "гхийклмнопярстужвьызшэщчъЮАБЦДЕФГХИЙКЛМНОПЯРСТУЖВЬЫЗШЭЩЧЪ"

/-- The code page `koi8_u`, as it differs from `koi8R`. -/
def koi8U : CodePage :=
  koi8R
    |> patch 0xa4 "є╔ії"
    |> patch 0xad "ґ"
    |> patch 0xb4 "Є╣ІЇ"
    |> patch 0xbd "Ґ"

/-- The code page `koi8_t`, as it differs from `koi8R`. -/
def koi8T : CodePage :=
  koi8R
    |> patch 0x80 "қғ‚Ғ„…†‡\ufffe‰ҳ‹ҲҷҶ\ufffeҚ‘’“”•–—\ufffe™\ufffe›\ufffe\ufffe\ufffe\ufffe"
    |> patch 0xa0 "\ufffeӯӮё¤ӣ¦§\ufffe\ufffe\ufffe«¬\u00ad®\ufffe°±²Ё\ufffeӢ¶·\ufffe№\ufffe»"
    |> patch 0xbc "\ufffe\ufffe\ufffe"

end BlockLang.CodePage
