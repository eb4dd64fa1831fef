import BlockLang.Encoding.CharName.Basic

/-! # Names of European characters -/

namespace BlockLang.CharName

/-- The names of ASCII and of the European scripts. -/
def european : List Run := [
  ⟨0x0020, [
    "⁰SPACE⁰EXCLAMATION MARK⁰QUOTATION MARK⁰NUMBER SIGN⁰DOLLAR SIGN⁰PERCENT SIGN⁰AMPERSAND",
    "⁰APOSTROPHE⁰LEFT PARENTHESIS⁰RIGHT PARENTHESIS⁰ASTERISK⁰PLUS SIGN⁰COMMA⁰HYPHEN-MINUS",
    "⁰FULL STOP⁰SOLIDUS⁰DIGIT ZERO¹ONE¹TWO¹THREE¹FOUR¹FIVE¹SIX¹SEVEN¹EIGHT¹NINE⁰COLON",
    "⁰SEMICOLON⁰LESS-THAN SIGN⁰EQUALS SIGN⁰GREATER-THAN SIGN⁰QUESTION MARK⁰COMMERCIAL AT",
    "⁰LATIN CAPITAL LETTER A³B³C³D³E³F³G³H³I³J³K³L³M³N³O³P³Q³R³S³T³U³V³W³X³Y³Z",
    "⁰LEFT SQUARE BRACKET⁰REVERSE SOLIDUS⁰RIGHT SQUARE BRACKET⁰CIRCUMFLEX ACCENT⁰LOW LINE",
    "⁰GRAVE ACCENT⁰LATIN SMALL LETTER A³B³C³D³E³F³G³H³I³J³K³L³M³N³O³P³Q³R³S³T³U³V³W³X³Y³Z",
    "⁰LEFT CURLY BRACKET⁰VERTICAL LINE⁰RIGHT CURLY BRACKET⁰TILDE"]⟩,
  ⟨0x00a0, [
    "⁰NO-BREAK SPACE⁰INVERTED EXCLAMATION MARK⁰CENT SIGN⁰POUND SIGN⁰CURRENCY SIGN⁰YEN SIGN",
    "⁰BROKEN BAR⁰SECTION SIGN⁰DIAERESIS⁰COPYRIGHT SIGN⁰FEMININE ORDINAL INDICATOR",
    "⁰LEFT-POINTING DOUBLE ANGLE QUOTATION MARK⁰NOT SIGN⁰SOFT HYPHEN⁰REGISTERED SIGN⁰MACRON",
    "⁰DEGREE SIGN⁰PLUS-MINUS SIGN⁰SUPERSCRIPT TWO¹THREE⁰ACUTE ACCENT⁰MICRO SIGN⁰PILCROW SIGN",
    "⁰MIDDLE DOT⁰CEDILLA⁰SUPERSCRIPT ONE⁰MASCULINE ORDINAL INDICATOR",
    "⁰RIGHT-POINTING DOUBLE ANGLE QUOTATION MARK⁰VULGAR FRACTION ONE QUARTER³HALF",
    "²THREE QUARTERS⁰INVERTED QUESTION MARK⁰LATIN CAPITAL LETTER A WITH GRAVE⁵ACUTE",
    "⁵CIRCUMFLEX⁵TILDE⁵DIAERESIS⁵RING ABOVE³AE³C WITH CEDILLA³E WITH GRAVE⁵ACUTE⁵CIRCUMFLEX",
    "⁵DIAERESIS³I WITH GRAVE⁵ACUTE⁵CIRCUMFLEX⁵DIAERESIS³ETH³N WITH TILDE³O WITH GRAVE⁵ACUTE",
    "⁵CIRCUMFLEX⁵TILDE⁵DIAERESIS⁰MULTIPLICATION SIGN⁰LATIN CAPITAL LETTER O WITH STROKE",
    "³U WITH GRAVE⁵ACUTE⁵CIRCUMFLEX⁵DIAERESIS³Y WITH ACUTE³THORN¹SMALL LETTER SHARP S",
    "³A WITH GRAVE⁵ACUTE⁵CIRCUMFLEX⁵TILDE⁵DIAERESIS⁵RING ABOVE³AE³C WITH CEDILLA³E WITH GRAVE",
    "⁵ACUTE⁵CIRCUMFLEX⁵DIAERESIS³I WITH GRAVE⁵ACUTE⁵CIRCUMFLEX⁵DIAERESIS³ETH³N WITH TILDE",
    "³O WITH GRAVE⁵ACUTE⁵CIRCUMFLEX⁵TILDE⁵DIAERESIS⁰DIVISION SIGN",
    "⁰LATIN SMALL LETTER O WITH STROKE³U WITH GRAVE⁵ACUTE⁵CIRCUMFLEX⁵DIAERESIS³Y WITH ACUTE",
    "³THORN³Y WITH DIAERESIS¹CAPITAL LETTER A WITH MACRON¹SMALL LETTER A WITH MACRON",
    "¹CAPITAL LETTER A WITH BREVE¹SMALL LETTER A WITH BREVE¹CAPITAL LETTER A WITH OGONEK",
    "¹SMALL LETTER A WITH OGONEK¹CAPITAL LETTER C WITH ACUTE¹SMALL LETTER C WITH ACUTE",
    "¹CAPITAL LETTER C WITH CIRCUMFLEX¹SMALL LETTER C WITH CIRCUMFLEX",
    "¹CAPITAL LETTER C WITH DOT ABOVE¹SMALL LETTER C WITH DOT ABOVE",
    "¹CAPITAL LETTER C WITH CARON¹SMALL LETTER C WITH CARON¹CAPITAL LETTER D WITH CARON",
    "¹SMALL LETTER D WITH CARON¹CAPITAL LETTER D WITH STROKE¹SMALL LETTER D WITH STROKE",
    "¹CAPITAL LETTER E WITH MACRON¹SMALL LETTER E WITH MACRON¹CAPITAL LETTER E WITH BREVE",
    "¹SMALL LETTER E WITH BREVE¹CAPITAL LETTER E WITH DOT ABOVE¹SMALL LETTER E WITH DOT ABOVE",
    "¹CAPITAL LETTER E WITH OGONEK¹SMALL LETTER E WITH OGONEK¹CAPITAL LETTER E WITH CARON",
    "¹SMALL LETTER E WITH CARON¹CAPITAL LETTER G WITH CIRCUMFLEX",
    "¹SMALL LETTER G WITH CIRCUMFLEX¹CAPITAL LETTER G WITH BREVE¹SMALL LETTER G WITH BREVE",
    "¹CAPITAL LETTER G WITH DOT ABOVE¹SMALL LETTER G WITH DOT ABOVE",
    "¹CAPITAL LETTER G WITH CEDILLA¹SMALL LETTER G WITH CEDILLA",
    "¹CAPITAL LETTER H WITH CIRCUMFLEX¹SMALL LETTER H WITH CIRCUMFLEX",
    "¹CAPITAL LETTER H WITH STROKE¹SMALL LETTER H WITH STROKE¹CAPITAL LETTER I WITH TILDE",
    "¹SMALL LETTER I WITH TILDE¹CAPITAL LETTER I WITH MACRON¹SMALL LETTER I WITH MACRON",
    "¹CAPITAL LETTER I WITH BREVE¹SMALL LETTER I WITH BREVE¹CAPITAL LETTER I WITH OGONEK",
    "¹SMALL LETTER I WITH OGONEK¹CAPITAL LETTER I WITH DOT ABOVE¹SMALL LETTER DOTLESS I",
    "¹CAPITAL LIGATURE IJ¹SMALL LIGATURE IJ¹CAPITAL LETTER J WITH CIRCUMFLEX",
    "¹SMALL LETTER J WITH CIRCUMFLEX¹CAPITAL LETTER K WITH CEDILLA",
    "¹SMALL LETTER K WITH CEDILLA³KRA¹CAPITAL LETTER L WITH ACUTE¹SMALL LETTER L WITH ACUTE",
    "¹CAPITAL LETTER L WITH CEDILLA¹SMALL LETTER L WITH CEDILLA¹CAPITAL LETTER L WITH CARON",
    "¹SMALL LETTER L WITH CARON¹CAPITAL LETTER L WITH MIDDLE DOT",
    "¹SMALL LETTER L WITH MIDDLE DOT¹CAPITAL LETTER L WITH STROKE¹SMALL LETTER L WITH STROKE",
    "¹CAPITAL LETTER N WITH ACUTE¹SMALL LETTER N WITH ACUTE¹CAPITAL LETTER N WITH CEDILLA",
    "¹SMALL LETTER N WITH CEDILLA¹CAPITAL LETTER N WITH CARON¹SMALL LETTER N WITH CARON",
    "⁴PRECEDED BY APOSTROPHE¹CAPITAL LETTER ENG¹SMALL LETTER ENG¹CAPITAL LETTER O WITH MACRON",
    "¹SMALL LETTER O WITH MACRON¹CAPITAL LETTER O WITH BREVE¹SMALL LETTER O WITH BREVE",
    "¹CAPITAL LETTER O WITH DOUBLE ACUTE¹SMALL LETTER O WITH DOUBLE ACUTE¹CAPITAL LIGATURE OE",
    "¹SMALL LIGATURE OE¹CAPITAL LETTER R WITH ACUTE¹SMALL LETTER R WITH ACUTE",
    "¹CAPITAL LETTER R WITH CEDILLA¹SMALL LETTER R WITH CEDILLA¹CAPITAL LETTER R WITH CARON",
    "¹SMALL LETTER R WITH CARON¹CAPITAL LETTER S WITH ACUTE¹SMALL LETTER S WITH ACUTE",
    "¹CAPITAL LETTER S WITH CIRCUMFLEX¹SMALL LETTER S WITH CIRCUMFLEX",
    "¹CAPITAL LETTER S WITH CEDILLA¹SMALL LETTER S WITH CEDILLA¹CAPITAL LETTER S WITH CARON",
    "¹SMALL LETTER S WITH CARON¹CAPITAL LETTER T WITH CEDILLA¹SMALL LETTER T WITH CEDILLA",
    "¹CAPITAL LETTER T WITH CARON¹SMALL LETTER T WITH CARON¹CAPITAL LETTER T WITH STROKE",
    "¹SMALL LETTER T WITH STROKE¹CAPITAL LETTER U WITH TILDE¹SMALL LETTER U WITH TILDE",
    "¹CAPITAL LETTER U WITH MACRON¹SMALL LETTER U WITH MACRON¹CAPITAL LETTER U WITH BREVE",
    "¹SMALL LETTER U WITH BREVE¹CAPITAL LETTER U WITH RING ABOVE",
    "¹SMALL LETTER U WITH RING ABOVE¹CAPITAL LETTER U WITH DOUBLE ACUTE",
    "¹SMALL LETTER U WITH DOUBLE ACUTE¹CAPITAL LETTER U WITH OGONEK",
    "¹SMALL LETTER U WITH OGONEK¹CAPITAL LETTER W WITH CIRCUMFLEX",
    "¹SMALL LETTER W WITH CIRCUMFLEX¹CAPITAL LETTER Y WITH CIRCUMFLEX",
    "¹SMALL LETTER Y WITH CIRCUMFLEX¹CAPITAL LETTER Y WITH DIAERESIS³Z WITH ACUTE",
    "¹SMALL LETTER Z WITH ACUTE¹CAPITAL LETTER Z WITH DOT ABOVE¹SMALL LETTER Z WITH DOT ABOVE",
    "¹CAPITAL LETTER Z WITH CARON¹SMALL LETTER Z WITH CARON³LONG S³B WITH STROKE",
    "¹CAPITAL LETTER B WITH HOOK⁵TOPBAR¹SMALL LETTER B WITH TOPBAR¹CAPITAL LETTER TONE SIX",
    "¹SMALL LETTER TONE SIX¹CAPITAL LETTER OPEN O³C WITH HOOK¹SMALL LETTER C WITH HOOK",
    "¹CAPITAL LETTER AFRICAN D³D WITH HOOK⁵TOPBAR¹SMALL LETTER D WITH TOPBAR³TURNED DELTA",
    "¹CAPITAL LETTER REVERSED E³SCHWA³OPEN E³F WITH HOOK¹SMALL LETTER F WITH HOOK",
    "¹CAPITAL LETTER G WITH HOOK³GAMMA¹SMALL LETTER HV¹CAPITAL LETTER IOTA³I WITH STROKE",
    "³K WITH HOOK¹SMALL LETTER K WITH HOOK³L WITH BAR³LAMBDA WITH STROKE",
    "¹CAPITAL LETTER TURNED M³N WITH LEFT HOOK¹SMALL LETTER N WITH LONG RIGHT LEG",
    "¹CAPITAL LETTER O WITH MIDDLE TILDE⁵HORN¹SMALL LETTER O WITH HORN¹CAPITAL LETTER OI",
    "¹SMALL LETTER OI¹CAPITAL LETTER P WITH HOOK¹SMALL LETTER P WITH HOOK¹LETTER YR",
    "¹CAPITAL LETTER TONE TWO¹SMALL LETTER TONE TWO¹CAPITAL LETTER ESH",
    "¹LETTER REVERSED ESH LOOP¹SMALL LETTER T WITH PALATAL HOOK¹CAPITAL LETTER T WITH HOOK",
    "¹SMALL LETTER T WITH HOOK¹CAPITAL LETTER T WITH RETROFLEX HOOK³U WITH HORN",
    "¹SMALL LETTER U WITH HORN¹CAPITAL LETTER UPSILON³V WITH HOOK³Y WITH HOOK",
    "¹SMALL LETTER Y WITH HOOK¹CAPITAL LETTER Z WITH STROKE¹SMALL LETTER Z WITH STROKE",
    "¹CAPITAL LETTER EZH⁴REVERSED¹SMALL LETTER EZH REVERSED⁴WITH TAIL¹LETTER TWO WITH STROKE",
    "¹CAPITAL LETTER TONE FIVE¹SMALL LETTER TONE FIVE",
    "¹LETTER INVERTED GLOTTAL STOP WITH STROKE²WYNN²DENTAL CLICK²LATERAL CLICK²ALVEOLAR CLICK",
    "²RETROFLEX CLICK¹CAPITAL LETTER DZ WITH CARON³D WITH SMALL LETTER Z WITH CARON",
    "¹SMALL LETTER DZ WITH CARON¹CAPITAL LETTER LJ³L WITH SMALL LETTER J¹SMALL LETTER LJ",
    "¹CAPITAL LETTER NJ³N WITH SMALL LETTER J¹SMALL LETTER NJ¹CAPITAL LETTER A WITH CARON",
    "¹SMALL LETTER A WITH CARON¹CAPITAL LETTER I WITH CARON¹SMALL LETTER I WITH CARON",
    "¹CAPITAL LETTER O WITH CARON¹SMALL LETTER O WITH CARON¹CAPITAL LETTER U WITH CARON",
    "¹SMALL LETTER U WITH CARON¹CAPITAL LETTER U WITH DIAERESIS AND MACRON",
    "¹SMALL LETTER U WITH DIAERESIS AND MACRON¹CAPITAL LETTER U WITH DIAERESIS AND ACUTE",
    "¹SMALL LETTER U WITH DIAERESIS AND ACUTE¹CAPITAL LETTER U WITH DIAERESIS AND CARON",
    "¹SMALL LETTER U WITH DIAERESIS AND CARON¹CAPITAL LETTER U WITH DIAERESIS AND GRAVE",
    "¹SMALL LETTER U WITH DIAERESIS AND GRAVE³TURNED E",
    "¹CAPITAL LETTER A WITH DIAERESIS AND MACRON¹SMALL LETTER A WITH DIAERESIS AND MACRON",
    "¹CAPITAL LETTER A WITH DOT ABOVE AND MACRON¹SMALL LETTER A WITH DOT ABOVE AND MACRON",
    "¹CAPITAL LETTER AE WITH MACRON¹SMALL LETTER AE WITH MACRON¹CAPITAL LETTER G WITH STROKE",
    "¹SMALL LETTER G WITH STROKE¹CAPITAL LETTER G WITH CARON¹SMALL LETTER G WITH CARON",
    "¹CAPITAL LETTER K WITH CARON¹SMALL LETTER K WITH CARON¹CAPITAL LETTER O WITH OGONEK",
    "¹SMALL LETTER O WITH OGONEK¹CAPITAL LETTER O WITH OGONEK AND MACRON",
    "¹SMALL LETTER O WITH OGONEK AND MACRON¹CAPITAL LETTER EZH WITH CARON",
    "¹SMALL LETTER EZH WITH CARON³J WITH CARON¹CAPITAL LETTER DZ³D WITH SMALL LETTER Z",
    "¹SMALL LETTER DZ¹CAPITAL LETTER G WITH ACUTE¹SMALL LETTER G WITH ACUTE",
    "¹CAPITAL LETTER HWAIR³WYNN³N WITH GRAVE¹SMALL LETTER N WITH GRAVE",
    "¹CAPITAL LETTER A WITH RING ABOVE AND ACUTE¹SMALL LETTER A WITH RING ABOVE AND ACUTE",
    "¹CAPITAL LETTER AE WITH ACUTE¹SMALL LETTER AE WITH ACUTE",
    "¹CAPITAL LETTER O WITH STROKE AND ACUTE¹SMALL LETTER O WITH STROKE AND ACUTE",
    "¹CAPITAL LETTER A WITH DOUBLE GRAVE¹SMALL LETTER A WITH DOUBLE GRAVE",
    "¹CAPITAL LETTER A WITH INVERTED BREVE¹SMALL LETTER A WITH INVERTED BREVE",
    "¹CAPITAL LETTER E WITH DOUBLE GRAVE¹SMALL LETTER E WITH DOUBLE GRAVE",
    "¹CAPITAL LETTER E WITH INVERTED BREVE¹SMALL LETTER E WITH INVERTED BREVE",
    "¹CAPITAL LETTER I WITH DOUBLE GRAVE¹SMALL LETTER I WITH DOUBLE GRAVE",
    "¹CAPITAL LETTER I WITH INVERTED BREVE¹SMALL LETTER I WITH INVERTED BREVE",
    "¹CAPITAL LETTER O WITH DOUBLE GRAVE¹SMALL LETTER O WITH DOUBLE GRAVE",
    "¹CAPITAL LETTER O WITH INVERTED BREVE¹SMALL LETTER O WITH INVERTED BREVE",
    "¹CAPITAL LETTER R WITH DOUBLE GRAVE¹SMALL LETTER R WITH DOUBLE GRAVE",
    "¹CAPITAL LETTER R WITH INVERTED BREVE¹SMALL LETTER R WITH INVERTED BREVE",
    "¹CAPITAL LETTER U WITH DOUBLE GRAVE¹SMALL LETTER U WITH DOUBLE GRAVE",
    "¹CAPITAL LETTER U WITH INVERTED BREVE¹SMALL LETTER U WITH INVERTED BREVE",
    "¹CAPITAL LETTER S WITH COMMA BELOW¹SMALL LETTER S WITH COMMA BELOW",
    "¹CAPITAL LETTER T WITH COMMA BELOW¹SMALL LETTER T WITH COMMA BELOW¹CAPITAL LETTER YOGH",
    "¹SMALL LETTER YOGH¹CAPITAL LETTER H WITH CARON¹SMALL LETTER H WITH CARON",
    "¹CAPITAL LETTER N WITH LONG RIGHT LEG¹SMALL LETTER D WITH CURL¹CAPITAL LETTER OU",
    "¹SMALL LETTER OU¹CAPITAL LETTER Z WITH HOOK¹SMALL LETTER Z WITH HOOK",
    "¹CAPITAL LETTER A WITH DOT ABOVE¹SMALL LETTER A WITH DOT ABOVE",
    "¹CAPITAL LETTER E WITH CEDILLA¹SMALL LETTER E WITH CEDILLA",
    "¹CAPITAL LETTER O WITH DIAERESIS AND MACRON¹SMALL LETTER O WITH DIAERESIS AND MACRON",
    "¹CAPITAL LETTER O WITH TILDE AND MACRON¹SMALL LETTER O WITH TILDE AND MACRON",
    "¹CAPITAL LETTER O WITH DOT ABOVE¹SMALL LETTER O WITH DOT ABOVE",
    "¹CAPITAL LETTER O WITH DOT ABOVE AND MACRON¹SMALL LETTER O WITH DOT ABOVE AND MACRON",
    "¹CAPITAL LETTER Y WITH MACRON¹SMALL LETTER Y WITH MACRON³L WITH CURL³N WITH CURL",
    "³T WITH CURL³DOTLESS J³DB DIGRAPH³QP DIGRAPH¹CAPITAL LETTER A WITH STROKE³C WITH STROKE",
    "¹SMALL LETTER C WITH STROKE¹CAPITAL LETTER L WITH BAR³T WITH DIAGONAL STROKE",
    "¹SMALL LETTER S WITH SWASH TAIL³Z WITH SWASH TAIL¹CAPITAL LETTER GLOTTAL STOP",
    "¹SMALL LETTER GLOTTAL STOP¹CAPITAL LETTER B WITH STROKE³U BAR³TURNED V³E WITH STROKE",
    "¹SMALL LETTER E WITH STROKE¹CAPITAL LETTER J WITH STROKE¹SMALL LETTER J WITH STROKE",
    "¹CAPITAL LETTER SMALL Q WITH HOOK TAIL¹SMALL LETTER Q WITH HOOK TAIL",
    "¹CAPITAL LETTER R WITH STROKE¹SMALL LETTER R WITH STROKE¹CAPITAL LETTER Y WITH STROKE",
    "¹SMALL LETTER Y WITH STROKE³TURNED A³ALPHA³TURNED ALPHA³B WITH HOOK³OPEN O³C WITH CURL",
    "³D WITH TAIL⁵HOOK³REVERSED E³SCHWA⁴WITH HOOK³OPEN E³REVERSED OPEN E⁶WITH HOOK",
    "³CLOSED REVERSED OPEN E³DOTLESS J WITH STROKE³G WITH HOOK³SCRIPT G",
    "¹LETTER SMALL CAPITAL G¹SMALL LETTER GAMMA³RAMS HORN³TURNED H³H WITH HOOK³HENG WITH HOOK",
    "³I WITH STROKE³IOTA¹LETTER SMALL CAPITAL I¹SMALL LETTER L WITH MIDDLE TILDE⁵BELT",
    "⁵RETROFLEX HOOK³LEZH³TURNED M⁵WITH LONG LEG³M WITH HOOK³N WITH LEFT HOOK⁵RETROFLEX HOOK",
    "¹LETTER SMALL CAPITAL N¹SMALL LETTER BARRED O¹LETTER SMALL CAPITAL OE",
    "¹SMALL LETTER CLOSED OMEGA³PHI³TURNED R⁵WITH LONG LEG⁶HOOK³R WITH LONG LEG⁵TAIL⁵FISHHOOK",
    "³REVERSED R WITH FISHHOOK¹LETTER SMALL CAPITAL R⁴INVERTED R¹SMALL LETTER S WITH HOOK³ESH",
    "³DOTLESS J WITH STROKE AND HOOK³SQUAT REVERSED ESH³ESH WITH CURL³TURNED T",
    "³T WITH RETROFLEX HOOK³U BAR³UPSILON³V WITH HOOK³TURNED V⁴W⁴Y¹LETTER SMALL CAPITAL Y",
    "¹SMALL LETTER Z WITH RETROFLEX HOOK⁵CURL³EZH⁴WITH CURL¹LETTER GLOTTAL STOP",
    "²PHARYNGEAL VOICED FRICATIVE²INVERTED GLOTTAL STOP²STRETCHED C²BILABIAL CLICK",
    "²SMALL CAPITAL B¹SMALL LETTER CLOSED OPEN E¹LETTER SMALL CAPITAL G WITH HOOK⁴H",
    "¹SMALL LETTER J WITH CROSSED-TAIL³TURNED K¹LETTER SMALL CAPITAL L",
    "¹SMALL LETTER Q WITH HOOK¹LETTER GLOTTAL STOP WITH STROKE",
    "²REVERSED GLOTTAL STOP WITH STROKE¹SMALL LETTER DZ DIGRAPH³DEZH DIGRAPH",
    "³DZ DIGRAPH WITH CURL³TS DIGRAPH³TESH DIGRAPH³TC DIGRAPH WITH CURL³FENG DIGRAPH",
    "³LS DIGRAPH³LZ DIGRAPH¹LETTER BILABIAL PERCUSSIVE²BIDENTAL PERCUSSIVE",
    "¹SMALL LETTER TURNED H WITH FISHHOOK⁷AND TAIL⁰MODIFIER LETTER SMALL H⁴WITH HOOK³J³R",
    "³TURNED R⁵WITH HOOK³CAPITAL INVERTED R³W³Y²PRIME²DOUBLE PRIME²TURNED COMMA²APOSTROPHE",
    "²REVERSED COMMA²RIGHT HALF RING²LEFT HALF RING²GLOTTAL STOP²REVERSED GLOTTAL STOP",
    "²LEFT ARROWHEAD²RIGHT ARROWHEAD²UP ARROWHEAD²DOWN ARROWHEAD²CIRCUMFLEX ACCENT⁰CARON",
    "⁰MODIFIER LETTER VERTICAL LINE²MACRON²ACUTE ACCENT²GRAVE ACCENT²LOW VERTICAL LINE³MACRON",
    "³GRAVE ACCENT³ACUTE ACCENT²TRIANGULAR COLON²HALF TRIANGULAR COLON",
    "²CENTRED RIGHT HALF RING³LEFT HALF RING²UP TACK²DOWN TACK²PLUS SIGN²MINUS SIGN⁰BREVE",
    "⁰DOT ABOVE⁰RING ABOVE⁰OGONEK⁰SMALL TILDE⁰DOUBLE ACUTE ACCENT⁰MODIFIER LETTER RHOTIC HOOK",
    "²CROSS ACCENT²SMALL GAMMA³L³S³X³REVERSED GLOTTAL STOP²EXTRA-HIGH TONE BAR²HIGH TONE BAR",
    "²MID TONE BAR²LOW TONE BAR²EXTRA-LOW TONE BAR²YIN DEPARTING TONE MARK",
    "²YANG DEPARTING TONE MARK²VOICING²UNASPIRATED²DOUBLE APOSTROPHE²LOW DOWN ARROWHEAD",
    "³UP ARROWHEAD³LEFT ARROWHEAD³RIGHT ARROWHEAD³RING²MIDDLE GRAVE ACCENT",
    "³DOUBLE GRAVE ACCENT⁴ACUTE ACCENT²LOW TILDE²RAISED COLON²BEGIN HIGH TONE²END HIGH TONE",
    "²BEGIN LOW TONE²END LOW TONE²SHELF²OPEN SHELF²LOW LEFT ARROW⁰COMBINING GRAVE ACCENT",
    "¹ACUTE ACCENT¹CIRCUMFLEX ACCENT¹TILDE¹MACRON¹OVERLINE¹BREVE¹DOT ABOVE¹DIAERESIS",
    "¹HOOK ABOVE¹RING ABOVE¹DOUBLE ACUTE ACCENT¹CARON¹VERTICAL LINE ABOVE",
    "¹DOUBLE VERTICAL LINE ABOVE²GRAVE ACCENT¹CANDRABINDU¹INVERTED BREVE¹TURNED COMMA ABOVE",
    "¹COMMA ABOVE¹REVERSED COMMA ABOVE¹COMMA ABOVE RIGHT¹GRAVE ACCENT BELOW",
    "¹ACUTE ACCENT BELOW¹LEFT TACK BELOW¹RIGHT TACK BELOW¹LEFT ANGLE ABOVE¹HORN",
    "¹LEFT HALF RING BELOW¹UP TACK BELOW¹DOWN TACK BELOW¹PLUS SIGN BELOW¹MINUS SIGN BELOW",
    "¹PALATALIZED HOOK BELOW¹RETROFLEX HOOK BELOW¹DOT BELOW¹DIAERESIS BELOW¹RING BELOW",
    "¹COMMA BELOW¹CEDILLA¹OGONEK¹VERTICAL LINE BELOW¹BRIDGE BELOW¹INVERTED DOUBLE ARCH BELOW",
    "¹CARON BELOW¹CIRCUMFLEX ACCENT BELOW¹BREVE BELOW¹INVERTED BREVE BELOW¹TILDE BELOW",
    "¹MACRON BELOW¹LOW LINE¹DOUBLE LOW LINE¹TILDE OVERLAY¹SHORT STROKE OVERLAY",
    "¹LONG STROKE OVERLAY¹SHORT SOLIDUS OVERLAY¹LONG SOLIDUS OVERLAY¹RIGHT HALF RING BELOW",
    "¹INVERTED BRIDGE BELOW¹SQUARE BELOW¹SEAGULL BELOW¹X ABOVE¹VERTICAL TILDE¹DOUBLE OVERLINE",
    "¹GRAVE TONE MARK¹ACUTE TONE MARK¹GREEK PERISPOMENI²KORONIS²DIALYTIKA TONOS²YPOGEGRAMMENI",
    "¹BRIDGE ABOVE¹EQUALS SIGN BELOW¹DOUBLE VERTICAL LINE BELOW¹LEFT ANGLE BELOW",
    "¹NOT TILDE ABOVE¹HOMOTHETIC ABOVE¹ALMOST EQUAL TO ABOVE¹LEFT RIGHT ARROW BELOW",
    "¹UPWARDS ARROW BELOW¹GRAPHEME JOINER¹RIGHT ARROWHEAD ABOVE¹LEFT HALF RING ABOVE¹FERMATA",
    "¹X BELOW¹LEFT ARROWHEAD BELOW¹RIGHT ARROWHEAD BELOW³AND UP ARROWHEAD BELOW",
    "²HALF RING ABOVE¹DOT ABOVE RIGHT¹ASTERISK BELOW¹DOUBLE RING BELOW¹ZIGZAG ABOVE",
    "¹DOUBLE BREVE BELOW²BREVE²MACRON³BELOW²TILDE²INVERTED BREVE²RIGHTWARDS ARROW BELOW",
    "¹LATIN SMALL LETTER A⁴E⁴I⁴O⁴U⁴C⁴D⁴H⁴M⁴R⁴T⁴V⁴X⁰GREEK CAPITAL LETTER HETA",
    "¹SMALL LETTER HETA¹CAPITAL LETTER ARCHAIC SAMPI¹SMALL LETTER ARCHAIC SAMPI¹NUMERAL SIGN",
    "¹LOWER NUMERAL SIGN¹CAPITAL LETTER PAMPHYLIAN DIGAMMA¹SMALL LETTER PAMPHYLIAN DIGAMMA"]⟩,
  ⟨0x037a, [
    "⁰GREEK YPOGEGRAMMENI¹SMALL REVERSED LUNATE SIGMA SYMBOL²DOTTED LUNATE SIGMA SYMBOL",
    "²REVERSED DOTTED LUNATE SIGMA SYMBOL¹QUESTION MARK¹CAPITAL LETTER YOT"]⟩,
  ⟨0x0384, [
    "⁰GREEK TONOS¹DIALYTIKA TONOS¹CAPITAL LETTER ALPHA WITH TONOS¹ANO TELEIA",
    "¹CAPITAL LETTER EPSILON WITH TONOS³ETA WITH TONOS³IOTA WITH TONOS"]⟩,
  ⟨0x038c, ["⁰GREEK CAPITAL LETTER OMICRON WITH TONOS"]⟩,
  ⟨0x038e, [
    "⁰GREEK CAPITAL LETTER UPSILON WITH TONOS³OMEGA WITH TONOS",
    "¹SMALL LETTER IOTA WITH DIALYTIKA AND TONOS¹CAPITAL LETTER ALPHA³BETA³GAMMA³DELTA",
    "³EPSILON³ZETA³ETA³THETA³IOTA³KAPPA³LAMDA³MU³NU³XI³OMICRON³PI³RHO"]⟩,
  ⟨0x03a3, [
    "⁰GREEK CAPITAL LETTER SIGMA³TAU³UPSILON³PHI³CHI³PSI³OMEGA³IOTA WITH DIALYTIKA",
    "³UPSILON WITH DIALYTIKA¹SMALL LETTER ALPHA WITH TONOS³EPSILON WITH TONOS³ETA WITH TONOS",
    "³IOTA WITH TONOS³UPSILON WITH DIALYTIKA AND TONOS³ALPHA³BETA³GAMMA³DELTA³EPSILON³ZETA",
    "³ETA³THETA³IOTA³KAPPA³LAMDA³MU³NU³XI³OMICRON³PI³RHO³FINAL SIGMA³SIGMA³TAU³UPSILON³PHI",
    "³CHI³PSI³OMEGA³IOTA WITH DIALYTIKA³UPSILON WITH DIALYTIKA³OMICRON WITH TONOS",
    "³UPSILON WITH TONOS³OMEGA WITH TONOS¹CAPITAL KAI SYMBOL¹BETA SYMBOL¹THETA SYMBOL",
    "¹UPSILON WITH HOOK SYMBOL³ACUTE AND HOOK SYMBOL³DIAERESIS AND HOOK SYMBOL¹PHI SYMBOL",
    "¹PI SYMBOL¹KAI SYMBOL¹LETTER ARCHAIC KOPPA¹SMALL LETTER ARCHAIC KOPPA¹LETTER STIGMA",
    "¹SMALL LETTER STIGMA¹LETTER DIGAMMA¹SMALL LETTER DIGAMMA¹LETTER KOPPA¹SMALL LETTER KOPPA",
    "¹LETTER SAMPI¹SMALL LETTER SAMPI⁰COPTIC CAPITAL LETTER SHEI¹SMALL LETTER SHEI",
    "¹CAPITAL LETTER FEI¹SMALL LETTER FEI¹CAPITAL LETTER KHEI¹SMALL LETTER KHEI",
    "¹CAPITAL LETTER HORI¹SMALL LETTER HORI¹CAPITAL LETTER GANGIA¹SMALL LETTER GANGIA",
    "¹CAPITAL LETTER SHIMA¹SMALL LETTER SHIMA¹CAPITAL LETTER DEI¹SMALL LETTER DEI",
    "⁰GREEK KAPPA SYMBOL¹RHO SYMBOL¹LUNATE SIGMA SYMBOL¹LETTER YOT¹CAPITAL THETA SYMBOL",
    "¹LUNATE EPSILON SYMBOL¹REVERSED LUNATE EPSILON SYMBOL¹CAPITAL LETTER SHO",
    "¹SMALL LETTER SHO¹CAPITAL LUNATE SIGMA SYMBOL²LETTER SAN¹SMALL LETTER SAN",
    "¹RHO WITH STROKE SYMBOL¹CAPITAL REVERSED LUNATE SIGMA SYMBOL²DOTTED LUNATE SIGMA SYMBOL",
    "²REVERSED DOTTED LUNATE SIGMA SYMBOL⁰CYRILLIC CAPITAL LETTER IE WITH GRAVE³IO³DJE³GJE",
    "³UKRAINIAN IE³DZE³BYELORUSSIAN-UKRAINIAN I³YI³JE³LJE³NJE³TSHE³KJE³I WITH GRAVE³SHORT U",
    "³DZHE³A³BE³VE³GHE³DE³IE³ZHE³ZE³I³SHORT I³KA³EL³EM³EN³O³PE³ER³ES³TE³U³EF³HA³TSE³CHE³SHA",
    "³SHCHA³HARD SIGN³YERU³SOFT SIGN³E³YU³YA¹SMALL LETTER A³BE³VE³GHE³DE³IE³ZHE³ZE³I³SHORT I",
    "³KA³EL³EM³EN³O³PE³ER³ES³TE³U³EF³HA³TSE³CHE³SHA³SHCHA³HARD SIGN³YERU³SOFT SIGN³E³YU³YA",
    "³IE WITH GRAVE³IO³DJE³GJE³UKRAINIAN IE³DZE³BYELORUSSIAN-UKRAINIAN I³YI³JE³LJE³NJE³TSHE",
    "³KJE³I WITH GRAVE³SHORT U³DZHE¹CAPITAL LETTER OMEGA¹SMALL LETTER OMEGA",
    "¹CAPITAL LETTER YAT¹SMALL LETTER YAT¹CAPITAL LETTER IOTIFIED E¹SMALL LETTER IOTIFIED E",
    "¹CAPITAL LETTER LITTLE YUS¹SMALL LETTER LITTLE YUS¹CAPITAL LETTER IOTIFIED LITTLE YUS",
    "¹SMALL LETTER IOTIFIED LITTLE YUS¹CAPITAL LETTER BIG YUS¹SMALL LETTER BIG YUS",
    "¹CAPITAL LETTER IOTIFIED BIG YUS¹SMALL LETTER IOTIFIED BIG YUS¹CAPITAL LETTER KSI",
    "¹SMALL LETTER KSI¹CAPITAL LETTER PSI¹SMALL LETTER PSI¹CAPITAL LETTER FITA",
    "¹SMALL LETTER FITA¹CAPITAL LETTER IZHITSA¹SMALL LETTER IZHITSA",
    "¹CAPITAL LETTER IZHITSA WITH DOUBLE GRAVE ACCENT",
    "¹SMALL LETTER IZHITSA WITH DOUBLE GRAVE ACCENT¹CAPITAL LETTER UK¹SMALL LETTER UK",
    "¹CAPITAL LETTER ROUND OMEGA¹SMALL LETTER ROUND OMEGA¹CAPITAL LETTER OMEGA WITH TITLO",
    "¹SMALL LETTER OMEGA WITH TITLO¹CAPITAL LETTER OT¹SMALL LETTER OT¹CAPITAL LETTER KOPPA",
    "¹SMALL LETTER KOPPA¹THOUSANDS SIGN⁰COMBINING CYRILLIC TITLO²PALATALIZATION",
    "²DASIA PNEUMATA²PSILI PNEUMATA²POKRYTIE²HUNDRED THOUSANDS SIGN²MILLIONS SIGN",
    "⁰CYRILLIC CAPITAL LETTER SHORT I WITH TAIL¹SMALL LETTER SHORT I WITH TAIL",
    "¹CAPITAL LETTER SEMISOFT SIGN¹SMALL LETTER SEMISOFT SIGN¹CAPITAL LETTER ER WITH TICK",
    "¹SMALL LETTER ER WITH TICK¹CAPITAL LETTER GHE WITH UPTURN¹SMALL LETTER GHE WITH UPTURN",
    "¹CAPITAL LETTER GHE WITH STROKE¹SMALL LETTER GHE WITH STROKE",
    "¹CAPITAL LETTER GHE WITH MIDDLE HOOK¹SMALL LETTER GHE WITH MIDDLE HOOK",
    "¹CAPITAL LETTER ZHE WITH DESCENDER¹SMALL LETTER ZHE WITH DESCENDER",
    "¹CAPITAL LETTER ZE WITH DESCENDER¹SMALL LETTER ZE WITH DESCENDER",
    "¹CAPITAL LETTER KA WITH DESCENDER¹SMALL LETTER KA WITH DESCENDER",
    "¹CAPITAL LETTER KA WITH VERTICAL STROKE¹SMALL LETTER KA WITH VERTICAL STROKE",
    "¹CAPITAL LETTER KA WITH STROKE¹SMALL LETTER KA WITH STROKE¹CAPITAL LETTER BASHKIR KA",
    "¹SMALL LETTER BASHKIR KA¹CAPITAL LETTER EN WITH DESCENDER¹SMALL LETTER EN WITH DESCENDER",
    "¹CAPITAL LIGATURE EN GHE¹SMALL LIGATURE EN GHE¹CAPITAL LETTER PE WITH MIDDLE HOOK",
    "¹SMALL LETTER PE WITH MIDDLE HOOK¹CAPITAL LETTER ABKHASIAN HA¹SMALL LETTER ABKHASIAN HA",
    "¹CAPITAL LETTER ES WITH DESCENDER¹SMALL LETTER ES WITH DESCENDER",
    "¹CAPITAL LETTER TE WITH DESCENDER¹SMALL LETTER TE WITH DESCENDER",
    "¹CAPITAL LETTER STRAIGHT U¹SMALL LETTER STRAIGHT U¹CAPITAL LETTER STRAIGHT U WITH STROKE",
    "¹SMALL LETTER STRAIGHT U WITH STROKE¹CAPITAL LETTER HA WITH DESCENDER",
    "¹SMALL LETTER HA WITH DESCENDER¹CAPITAL LIGATURE TE TSE¹SMALL LIGATURE TE TSE",
    "¹CAPITAL LETTER CHE WITH DESCENDER¹SMALL LETTER CHE WITH DESCENDER",
    "¹CAPITAL LETTER CHE WITH VERTICAL STROKE¹SMALL LETTER CHE WITH VERTICAL STROKE",
    "¹CAPITAL LETTER SHHA¹SMALL LETTER SHHA¹CAPITAL LETTER ABKHASIAN CHE",
    "¹SMALL LETTER ABKHASIAN CHE¹CAPITAL LETTER ABKHASIAN CHE WITH DESCENDER",
    "¹SMALL LETTER ABKHASIAN CHE WITH DESCENDER¹LETTER PALOCHKA¹CAPITAL LETTER ZHE WITH BREVE",
    "¹SMALL LETTER ZHE WITH BREVE¹CAPITAL LETTER KA WITH HOOK¹SMALL LETTER KA WITH HOOK",
    "¹CAPITAL LETTER EL WITH TAIL¹SMALL LETTER EL WITH TAIL¹CAPITAL LETTER EN WITH HOOK",
    "¹SMALL LETTER EN WITH HOOK¹CAPITAL LETTER EN WITH TAIL¹SMALL LETTER EN WITH TAIL",
    "¹CAPITAL LETTER KHAKASSIAN CHE¹SMALL LETTER KHAKASSIAN CHE¹CAPITAL LETTER EM WITH TAIL",
    "¹SMALL LETTER EM WITH TAIL³PALOCHKA¹CAPITAL LETTER A WITH BREVE",
    "¹SMALL LETTER A WITH BREVE¹CAPITAL LETTER A WITH DIAERESIS¹SMALL LETTER A WITH DIAERESIS",
    "¹CAPITAL LIGATURE A IE¹SMALL LIGATURE A IE¹CAPITAL LETTER IE WITH BREVE",
    "¹SMALL LETTER IE WITH BREVE¹CAPITAL LETTER SCHWA¹SMALL LETTER SCHWA",
    "¹CAPITAL LETTER SCHWA WITH DIAERESIS¹SMALL LETTER SCHWA WITH DIAERESIS",
    "¹CAPITAL LETTER ZHE WITH DIAERESIS¹SMALL LETTER ZHE WITH DIAERESIS",
    "¹CAPITAL LETTER ZE WITH DIAERESIS¹SMALL LETTER ZE WITH DIAERESIS",
    "¹CAPITAL LETTER ABKHASIAN DZE¹SMALL LETTER ABKHASIAN DZE¹CAPITAL LETTER I WITH MACRON",
    "¹SMALL LETTER I WITH MACRON¹CAPITAL LETTER I WITH DIAERESIS",
    "¹SMALL LETTER I WITH DIAERESIS¹CAPITAL LETTER O WITH DIAERESIS",
    "¹SMALL LETTER O WITH DIAERESIS¹CAPITAL LETTER BARRED O¹SMALL LETTER BARRED O",
    "¹CAPITAL LETTER BARRED O WITH DIAERESIS¹SMALL LETTER BARRED O WITH DIAERESIS",
    "¹CAPITAL LETTER E WITH DIAERESIS¹SMALL LETTER E WITH DIAERESIS",
    "¹CAPITAL LETTER U WITH MACRON¹SMALL LETTER U WITH MACRON¹CAPITAL LETTER U WITH DIAERESIS",
    "¹SMALL LETTER U WITH DIAERESIS¹CAPITAL LETTER U WITH DOUBLE ACUTE",
    "¹SMALL LETTER U WITH DOUBLE ACUTE¹CAPITAL LETTER CHE WITH DIAERESIS",
    "¹SMALL LETTER CHE WITH DIAERESIS¹CAPITAL LETTER GHE WITH DESCENDER",
    "¹SMALL LETTER GHE WITH DESCENDER¹CAPITAL LETTER YERU WITH DIAERESIS",
    "¹SMALL LETTER YERU WITH DIAERESIS¹CAPITAL LETTER GHE WITH STROKE AND HOOK",
    "¹SMALL LETTER GHE WITH STROKE AND HOOK¹CAPITAL LETTER HA WITH HOOK",
    "¹SMALL LETTER HA WITH HOOK¹CAPITAL LETTER HA WITH STROKE¹SMALL LETTER HA WITH STROKE",
    "¹CAPITAL LETTER KOMI DE¹SMALL LETTER KOMI DE¹CAPITAL LETTER KOMI DJE",
    "¹SMALL LETTER KOMI DJE¹CAPITAL LETTER KOMI ZJE¹SMALL LETTER KOMI ZJE",
    "¹CAPITAL LETTER KOMI DZJE¹SMALL LETTER KOMI DZJE¹CAPITAL LETTER KOMI LJE",
    "¹SMALL LETTER KOMI LJE¹CAPITAL LETTER KOMI NJE¹SMALL LETTER KOMI NJE",
    "¹CAPITAL LETTER KOMI SJE¹SMALL LETTER KOMI SJE¹CAPITAL LETTER KOMI TJE",
    "¹SMALL LETTER KOMI TJE¹CAPITAL LETTER REVERSED ZE¹SMALL LETTER REVERSED ZE",
    "¹CAPITAL LETTER EL WITH HOOK¹SMALL LETTER EL WITH HOOK¹CAPITAL LETTER LHA",
    "¹SMALL LETTER LHA¹CAPITAL LETTER RHA¹SMALL LETTER RHA¹CAPITAL LETTER YAE",
    "¹SMALL LETTER YAE¹CAPITAL LETTER QA¹SMALL LETTER QA¹CAPITAL LETTER WE¹SMALL LETTER WE",
    "¹CAPITAL LETTER ALEUT KA¹SMALL LETTER ALEUT KA¹CAPITAL LETTER EL WITH MIDDLE HOOK",
    "¹SMALL LETTER EL WITH MIDDLE HOOK¹CAPITAL LETTER EN WITH MIDDLE HOOK",
    "¹SMALL LETTER EN WITH MIDDLE HOOK¹CAPITAL LETTER PE WITH DESCENDER",
    "¹SMALL LETTER PE WITH DESCENDER¹CAPITAL LETTER SHHA WITH DESCENDER",
    "¹SMALL LETTER SHHA WITH DESCENDER¹CAPITAL LETTER EN WITH LEFT HOOK",
    "¹SMALL LETTER EN WITH LEFT HOOK¹CAPITAL LETTER DZZHE¹SMALL LETTER DZZHE",
    "¹CAPITAL LETTER DCHE¹SMALL LETTER DCHE¹CAPITAL LETTER EL WITH DESCENDER",
    "¹SMALL LETTER EL WITH DESCENDER"]⟩,
  ⟨0x0531, [
    "⁰ARMENIAN CAPITAL LETTER AYB³BEN³GIM³DA³ECH³ZA³EH³ET³TO³ZHE³INI³LIWN³XEH³CA³KEN³HO³JA",
    "³GHAD³CHEH³MEN³YI³NOW³SHA³VO³CHA³PEH³JHEH³RA³SEH³VEW³TIWN³REH³CO³YIWN³PIWR³KEH³OH³FEH"]⟩,
  ⟨0x0559, [
    "⁰ARMENIAN MODIFIER LETTER LEFT HALF RING¹APOSTROPHE¹EMPHASIS MARK¹EXCLAMATION MARK¹COMMA",
    "¹QUESTION MARK¹ABBREVIATION MARK¹SMALL LETTER TURNED AYB³AYB³BEN³GIM³DA³ECH³ZA³EH³ET³TO",
    "³ZHE³INI³LIWN³XEH³CA³KEN³HO³JA³GHAD³CHEH³MEN³YI³NOW³SHA³VO³CHA³PEH³JHEH³RA³SEH³VEW³TIWN",
    "³REH³CO³YIWN³PIWR³KEH³OH³FEH²LIGATURE ECH YIWN²LETTER YI WITH STROKE¹FULL STOP¹HYPHEN"]⟩,
  ⟨0x058d, [
    "⁰RIGHT-FACING ARMENIAN ETERNITY SIGN⁰LEFT-FACING ARMENIAN ETERNITY SIGN",
    "⁰ARMENIAN DRAM SIGN"]⟩]

end BlockLang.CharName
