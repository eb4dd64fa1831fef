import BlockLang.Encoding.CodePage.Basic

/-! # DOS code pages

The code pages of the DOS family. -/

namespace BlockLang.CodePage

/-- The code page `cp437`, as it differs from `latin1`. -/
def cp437 : CodePage :=
  latin1
    |> patch 0x80 "ÇüéâäàåçêëèïîìÄÅÉæÆôöòûùÿÖÜ¢£¥₧ƒáíóúñÑªº¿⌐¬½¼¡«»░▒▓│┤╡╢╖╕╣║╗╝╜╛┐└┴┬├─┼╞╟╚╔╩╦"
    |> patch 0xcc "╠═╬╧╨╤╥╙╘╒╓╫╪┘┌█▄▌▐▀αßΓπΣσµτΦΘΩδ∞φε∩≡±≥≤⌠⌡÷≈°∙·√ⁿ²■\u00a0"

/-- The code page `cp850`, as it differs from `cp437`. -/
def cp850 : CodePage :=
  cp437
    |> patch 0x9b "ø£Ø×"
    |> patch 0xa9 "®"
    |> patch 0xb5 "ÁÂÀ©"
    |> patch 0xbd "¢¥"
    |> patch 0xc6 "ãÃ"
    |> patch 0xcf "¤ðÐÊËÈıÍÎÏ"
    |> patch 0xdd "¦Ì▀ÓßÔÒõÕµþÞÚÛÙýÝ¯´\u00ad±‗¾¶§÷¸°¨·¹³"

/-- The code page `cp858`, as it differs from `cp850`. -/
def cp858 : CodePage :=
  cp850
    |> patch 0xd5 "€"

/-- The code page `cp865`, as it differs from `cp437`. -/
def cp865 : CodePage :=
  cp437
    |> patch 0x9b "ø£Ø"
    |> patch 0xaf "¤"

/-- The code page `cp861`, as it differs from `cp865`. -/
def cp861 : CodePage :=
  cp865
    |> patch 0x8b "ÐðÞ"
    |> patch 0x95 "þûÝý"
    |> patch 0xa4 "ÁÍÓÚ"
    |> patch 0xaf "»"

/-- The code page `cp857`, as it differs from `cp850`. -/
def cp857 : CodePage :=
  cp850
    |> patch 0x8d "ı"
    |> patch 0x98 "İ"
    |> patch 0x9e "Şş"
    |> patch 0xa6 "Ğğ"
    |> patch 0xd0 "ºªÊËÈ\ufffe"
    |> patch 0xe7 "\ufffe×ÚÛÙìÿ"
    |> patch 0xf2 "\ufffe"

/-- The code page `cp860`, as it differs from `cp437`. -/
def cp860 : CodePage :=
  cp437
    |> patch 0x84 "ãàÁçêÊèÍÔìÃÂÉÀÈôõòÚùÌÕÜ¢£Ù₧Ó"
    |> patch 0xa9 "Ò"

/-- The code page `cp863`, as it differs from `cp437`. -/
def cp863 : CodePage :=
  cp437
    |> patch 0x84 "Âà¶"
    |> patch 0x8d "‗À§ÉÈÊôËÏûù¤ÔÜ¢£ÙÛƒ¦´óú¨¸³¯Î"
    |> patch 0xad "¾"

/-- The code page `cp862`, as it differs from `cp437`. -/
def cp862 : CodePage :=
  cp437
    |> patch 0x80 "\u05d0\u05d1\u05d2\u05d3\u05d4\u05d5\u05d6\u05d7\u05d8\u05d9\u05da\u05db"
    |> patch 0x8c "\u05dc\u05dd\u05de\u05df\u05e0\u05e1\u05e2\u05e3\u05e4\u05e5\u05e6\u05e7"
    |> patch 0x98 "\u05e8\u05e9\u05ea"

/-- The code page `cp720`, as it differs from `cp437`. -/
def cp720 : CodePage :=
  cp437
    |> patch 0x80 "\u0080\u0081éâ\u0084à\u0086"
    |> patch 0x8d "\u008d\u008e\u008f\u0090\u0651\u0652ô¤\u0640ûù\u0621\u0622\u0623\u0624£"
    |> patch 0x9d "\u0625\u0626\u0627\u0628\u0629\u062a\u062b\u062c\u062d\u062e\u062f\u0630"
    |> patch 0xa9 "\u0631\u0632\u0633\u0634\u0635"
    |> patch 0xe0 "\u0636\u0637\u0638\u0639\u063a\u0641µ\u0642\u0643\u0644\u0645\u0646\u0647"
    |> patch 0xed "\u0648\u0649\u064a≡\u064b\u064c\u064d\u064e\u064f\u0650"

/-- The code page `cp852`, as it differs from `cp850`. -/
def cp852 : CodePage :=
  cp850
    |> patch 0x85 "ůćçłëŐőîŹÄĆÉĹĺôöĽľŚśÖÜŤťŁ×č"
    |> patch 0xa4 "ĄąŽžĘę¬źČş"
    |> patch 0xb7 "ĚŞ"
    |> patch 0xbd "Żż"
    |> patch 0xc6 "Ăă"
    |> patch 0xd0 "đĐĎËďŇÍÎě"
    |> patch 0xdd "ŢŮ"
    |> patch 0xe3 "ŃńňŠšŔÚŕŰýÝţ´\u00ad˝˛ˇ˘"
    |> patch 0xfa "˙űŘř"

/-- The code page `cp775`, as it differs from `cp850`. -/
def cp775 : CodePage :=
  cp850
    |> patch 0x80 "ĆüéāäģåćłēŖŗīŹ"
    |> patch 0x93 "ōöĢ¢Śś"
    |> patch 0x9f "¤ĀĪóŻżź”¦©"
    |> patch 0xad "Ł"
    |> patch 0xb5 "ĄČĘĖ"
    |> patch 0xbd "ĮŠ"
    |> patch 0xc6 "ŲŪ"
    |> patch 0xcf "Žąčęėįšųūž"
    |> patch 0xdd "▌▐▀ÓßŌŃõÕµńĶķĻļņĒŅ’\u00ad±“"
    |> patch 0xf7 "„°∙"

/-- The code page `cp856`, as it differs from `cp862`. -/
def cp856 : CodePage :=
  cp862
    |> patch 0x9b "\ufffe£\ufffe×\ufffe\ufffe\ufffe\ufffe\ufffe\ufffe\ufffe\ufffe\ufffe\ufffe®¬"
    |> patch 0xab "½¼\ufffe"
    |> patch 0xb5 "\ufffe\ufffe\ufffe©"
    |> patch 0xbd "¢¥"
    |> patch 0xc6 "\ufffe\ufffe"
    |> patch 0xcf "¤\ufffe\ufffe\ufffe\ufffe\ufffe\ufffe\ufffe\ufffe\ufffe"
    |> patch 0xdd "¦\ufffe▀\ufffe\ufffe\ufffe\ufffe\ufffe\ufffeµ\ufffe\ufffe\ufffe\ufffe\ufffe"
    |> patch 0xec "\ufffe\ufffe¯´\u00ad±‗¾¶§÷¸°¨·¹³"

/-- The code page `cp737`, as it differs from `cp437`. -/
def cp737 : CodePage :=
  cp437
    |> patch 0x80 "ΑΒΓΔΕΖΗΘΙΚΛΜΝΞΟΠΡΣΤΥΦΧΨΩαβγδεζηθικλμνξοπρσςτυφχψ"
    |> patch 0xe0 "ωάέήϊίόύϋώΆΈΉΊΌΎΏ±≥≤ΪΫ"

/-- The code page `cp866`, as it differs from `cp437`. -/
def cp866 : CodePage :=
  cp437
    |> patch 0x80 "АБВГДЕЖЗИЙКЛМНОПРСТУФХЦЧШЩЪЫЬЭЮЯабвгдежзийклмноп"
    |> patch 0xe0 "рстуфхцчшщъыьэюяЁёЄєЇїЎў"
    |> patch 0xfc "№¤"

/-- The code page `cp1125`, as it differs from `cp866`. -/
def cp1125 : CodePage :=
  cp866
    |> patch 0xf2 "ҐґЄєІіЇї"

/-- The code page `cp869`, as it differs from `cp850`. -/
def cp869 : CodePage :=
  cp850
    |> patch 0x80 "\ufffe\ufffe\ufffe\ufffe\ufffe\ufffeΆ\ufffe·¬¦‘’Έ―ΉΊΪΌ\ufffe\ufffeΎΫ©Ώ²³ά£έή"
    |> patch 0x9f "ίϊΐόύΑΒΓΔΕΖΗ½ΘΙ"
    |> patch 0xb5 "ΚΛΜΝ"
    |> patch 0xbd "ΞΟ"
    |> patch 0xc6 "ΠΡ"
    |> patch 0xcf "ΣΤΥΦΧΨΩαβγ"
    |> patch 0xdd "δε▀ζηθικλμνξοπρσςτ΄\u00ad±υφχ§ψ΅°¨ωϋΰώ"

/-- The code page `cp1006`, as it differs from `latin1`. -/
def cp1006 : CodePage :=
  latin1
    |> patch 0xa1 "۰۱۲۳۴۵۶۷۸۹،\u061b\u00ad\u061f\ufe81\ufe8d\ufe8e\ufe8e\ufe8f\ufe91\ufb56"
    |> patch 0xb6 "\ufb58\ufe93\ufe95\ufe97\ufb66\ufb68\ufe99\ufe9b\ufe9d\ufe9f\ufb7a\ufb7c"
    |> patch 0xc2 "\ufea1\ufea3\ufea5\ufea7\ufea9\ufb84\ufeab\ufead\ufb8c\ufeaf\ufb8a\ufeb1"
    |> patch 0xce "\ufeb3\ufeb5\ufeb7\ufeb9\ufebb\ufebd\ufebf\ufec1\ufec5\ufec9\ufeca\ufecb"
    |> patch 0xda "\ufecc\ufecd\ufece\ufecf\ufed0\ufed1\ufed3\ufed5\ufed7\ufed9\ufedb\ufb92"
    |> patch 0xe6 "\ufb94\ufedd\ufedf\ufee0\ufee1\ufee3\ufb9e\ufee5\ufee7\ufe85\ufeed\ufba6"
    |> patch 0xf2 "\ufba8\ufba9\ufbaa\ufe80\ufe89\ufe8a\ufe8b\ufef1\ufef2\ufef3\ufbb0\ufbae"
    |> patch 0xfe "\ufe7c\ufe7d"

/-- The code page `cp855`, as it differs from `cp850`. -/
def cp855 : CodePage :=
  cp850
    |> patch 0x80 "ђЂѓЃёЁєЄѕЅіІїЇјЈљЉњЊћЋќЌўЎџЏюЮъЪаАбБцЦдДеЕфФгГ"
    |> patch 0xb5 "хХиИ"
    |> patch 0xbd "йЙ"
    |> patch 0xc6 "кК"
    |> patch 0xd0 "лЛмМнНоОп"
    |> patch 0xdd "Пя▀ЯрРсСтТуУжЖвВьЬ№\u00adыЫзЗшШэЭщЩчЧ§"

/-- The code page `cp864`, as it differs from `cp856`. -/
def cp864 : CodePage :=
  cp856
    |> patch 0x25 "٪"
    |> patch 0x80 "°·∙√▒─│┼┤┬├┴┐┌└┘β∞φ±½¼≈«»\ufef7\ufef8\ufffe\ufffe\ufefb\ufefc\ufffe\u00a0"
    |> patch 0xa1 "\u00ad\ufe82£¤\ufe84\ufffe\ufffe\ufe8e\ufe8f\ufe95\ufe99،\ufe9d\ufea1\ufea5"
    |> patch 0xb0 "\u0660\u0661\u0662\u0663\u0664\u0665\u0666\u0667\u0668\u0669\ufed1\u061b"
    |> patch 0xbc "\ufeb1\ufeb5\ufeb9\u061f¢\ufe80\ufe81\ufe83\ufe85\ufeca\ufe8b\ufe8d\ufe91"
    |> patch 0xc9 "\ufe93\ufe97\ufe9b\ufe9f\ufea3\ufea7\ufea9\ufeab\ufead\ufeaf\ufeb3\ufeb7"
    |> patch 0xd5 "\ufebb\ufebf\ufec1\ufec5\ufecb\ufecf¦¬÷×\ufec9\u0640\ufed3\ufed7\ufedb\ufedf"
    |> patch 0xe5 "\ufee3\ufee7\ufeeb\ufeed\ufeef\ufef3\ufebd\ufecc\ufece\ufecd\ufee1\ufe7d"
    |> patch 0xf1 "\u0651\ufee5\ufee9\ufeec\ufef0\ufef2\ufed0\ufed5\ufef5\ufef6\ufedd\ufed9"
    |> patch 0xfd "\ufef1■\ufffe"

end BlockLang.CodePage
