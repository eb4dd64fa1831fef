import BlockLang.Encoding.CodePage.Dos
import BlockLang.Encoding.CodePage.Ebcdic
import BlockLang.Encoding.CodePage.Iso
import BlockLang.Encoding.CodePage.Koi
import BlockLang.Encoding.CodePage.Mac
import BlockLang.Encoding.CodePage.Other
import BlockLang.Encoding.CodePage.Windows

/-! # All code pages -/

namespace BlockLang.CodePage

/-- The code pages by their names. -/
def all : List (String × CodePage) :=
  [("cp037", cp037), ("cp1006", cp1006), ("cp1026", cp1026), ("cp1125", cp1125),
   ("cp1140", cp1140), ("cp1250", cp1250), ("cp1251", cp1251), ("cp1252", cp1252),
   ("cp1253", cp1253), ("cp1254", cp1254), ("cp1255", cp1255), ("cp1256", cp1256),
   ("cp1257", cp1257), ("cp1258", cp1258), ("cp273", cp273), ("cp424", cp424), ("cp437", cp437),
   ("cp500", cp500), ("cp720", cp720), ("cp737", cp737), ("cp775", cp775), ("cp850", cp850),
   ("cp852", cp852), ("cp855", cp855), ("cp856", cp856), ("cp857", cp857), ("cp858", cp858),
   ("cp860", cp860), ("cp861", cp861), ("cp862", cp862), ("cp863", cp863), ("cp864", cp864),
   ("cp865", cp865), ("cp866", cp866), ("cp869", cp869), ("cp874", cp874), ("cp875", cp875),
   ("hp_roman8", hpRoman8), ("iso8859_10", iso8859Part10), ("iso8859_11", iso8859Part11),
   ("iso8859_13", iso8859Part13), ("iso8859_14", iso8859Part14), ("iso8859_15", iso8859Part15),
   ("iso8859_16", iso8859Part16), ("iso8859_2", iso8859Part2), ("iso8859_3", iso8859Part3),
   ("iso8859_4", iso8859Part4), ("iso8859_5", iso8859Part5), ("iso8859_6", iso8859Part6),
   ("iso8859_7", iso8859Part7), ("iso8859_8", iso8859Part8), ("iso8859_9", iso8859Part9),
   ("koi8_r", koi8R), ("koi8_t", koi8T), ("koi8_u", koi8U), ("kz1048", kz1048),
   ("mac_arabic", macArabic), ("mac_croatian", macCroatian), ("mac_cyrillic", macCyrillic),
   ("mac_farsi", macFarsi), ("mac_greek", macGreek), ("mac_iceland", macIceland),
   ("mac_latin2", macLatin2), ("mac_roman", macRoman), ("mac_romanian", macRomanian),
   ("mac_turkish", macTurkish), ("palmos", palmos), ("ptcp154", ptcp154), ("tis_620", tis620)]

end BlockLang.CodePage
