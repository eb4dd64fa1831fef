import BlockLang.Encoding.CharName.Basic

/-! # Names of symbols -/

namespace BlockLang.CharName

/-- The names of the extensions of Latin and Greek, of punctuation and of symbols. -/
def symbols : List Run := [
  ⟨0x1e00, [
    "⁰LATIN CAPITAL LETTER A WITH RING BELOW¹SMALL LETTER A WITH RING BELOW",
    "¹CAPITAL LETTER B WITH DOT ABOVE¹SMALL LETTER B WITH DOT ABOVE",
    "¹CAPITAL LETTER B WITH DOT BELOW¹SMALL LETTER B WITH DOT BELOW",
    "¹CAPITAL LETTER B WITH LINE BELOW¹SMALL LETTER B WITH LINE BELOW",
    "¹CAPITAL LETTER C WITH CEDILLA AND ACUTE¹SMALL LETTER C WITH CEDILLA AND ACUTE",
    "¹CAPITAL LETTER D WITH DOT ABOVE¹SMALL LETTER D WITH DOT ABOVE",
    "¹CAPITAL LETTER D WITH DOT BELOW¹SMALL LETTER D WITH DOT BELOW",
    "¹CAPITAL LETTER D WITH LINE BELOW¹SMALL LETTER D WITH LINE BELOW",
    "¹CAPITAL LETTER D WITH CEDILLA¹SMALL LETTER D WITH CEDILLA",
    "¹CAPITAL LETTER D WITH CIRCUMFLEX BELOW¹SMALL LETTER D WITH CIRCUMFLEX BELOW",
    "¹CAPITAL LETTER E WITH MACRON AND GRAVE¹SMALL LETTER E WITH MACRON AND GRAVE",
    "¹CAPITAL LETTER E WITH MACRON AND ACUTE¹SMALL LETTER E WITH MACRON AND ACUTE",
    "¹CAPITAL LETTER E WITH CIRCUMFLEX BELOW¹SMALL LETTER E WITH CIRCUMFLEX BELOW",
    "¹CAPITAL LETTER E WITH TILDE BELOW¹SMALL LETTER E WITH TILDE BELOW",
    "¹CAPITAL LETTER E WITH CEDILLA AND BREVE¹SMALL LETTER E WITH CEDILLA AND BREVE",
    "¹CAPITAL LETTER F WITH DOT ABOVE¹SMALL LETTER F WITH DOT ABOVE",
    "¹CAPITAL LETTER G WITH MACRON¹SMALL LETTER G WITH MACRON¹CAPITAL LETTER H WITH DOT ABOVE",
    "¹SMALL LETTER H WITH DOT ABOVE¹CAPITAL LETTER H WITH DOT BELOW",
    "¹SMALL LETTER H WITH DOT BELOW¹CAPITAL LETTER H WITH DIAERESIS",
    "¹SMALL LETTER H WITH DIAERESIS¹CAPITAL LETTER H WITH CEDILLA¹SMALL LETTER H WITH CEDILLA",
    "¹CAPITAL LETTER H WITH BREVE BELOW¹SMALL LETTER H WITH BREVE BELOW",
    "¹CAPITAL LETTER I WITH TILDE BELOW¹SMALL LETTER I WITH TILDE BELOW",
    "¹CAPITAL LETTER I WITH DIAERESIS AND ACUTE¹SMALL LETTER I WITH DIAERESIS AND ACUTE",
    "¹CAPITAL LETTER K WITH ACUTE¹SMALL LETTER K WITH ACUTE¹CAPITAL LETTER K WITH DOT BELOW",
    "¹SMALL LETTER K WITH DOT BELOW¹CAPITAL LETTER K WITH LINE BELOW",
    "¹SMALL LETTER K WITH LINE BELOW¹CAPITAL LETTER L WITH DOT BELOW",
    "¹SMALL LETTER L WITH DOT BELOW¹CAPITAL LETTER L WITH DOT BELOW AND MACRON",
    "¹SMALL LETTER L WITH DOT BELOW AND MACRON¹CAPITAL LETTER L WITH LINE BELOW",
    "¹SMALL LETTER L WITH LINE BELOW¹CAPITAL LETTER L WITH CIRCUMFLEX BELOW",
    "¹SMALL LETTER L WITH CIRCUMFLEX BELOW¹CAPITAL LETTER M WITH ACUTE",
    "¹SMALL LETTER M WITH ACUTE¹CAPITAL LETTER M WITH DOT ABOVE¹SMALL LETTER M WITH DOT ABOVE",
    "¹CAPITAL LETTER M WITH DOT BELOW¹SMALL LETTER M WITH DOT BELOW",
    "¹CAPITAL LETTER N WITH DOT ABOVE¹SMALL LETTER N WITH DOT ABOVE",
    "¹CAPITAL LETTER N WITH DOT BELOW¹SMALL LETTER N WITH DOT BELOW",
    "¹CAPITAL LETTER N WITH LINE BELOW¹SMALL LETTER N WITH LINE BELOW",
    "¹CAPITAL LETTER N WITH CIRCUMFLEX BELOW¹SMALL LETTER N WITH CIRCUMFLEX BELOW",
    "¹CAPITAL LETTER O WITH TILDE AND ACUTE¹SMALL LETTER O WITH TILDE AND ACUTE",
    "¹CAPITAL LETTER O WITH TILDE AND DIAERESIS¹SMALL LETTER O WITH TILDE AND DIAERESIS",
    "¹CAPITAL LETTER O WITH MACRON AND GRAVE¹SMALL LETTER O WITH MACRON AND GRAVE",
    "¹CAPITAL LETTER O WITH MACRON AND ACUTE¹SMALL LETTER O WITH MACRON AND ACUTE",
    "¹CAPITAL LETTER P WITH ACUTE¹SMALL LETTER P WITH ACUTE¹CAPITAL LETTER P WITH DOT ABOVE",
    "¹SMALL LETTER P WITH DOT ABOVE¹CAPITAL LETTER R WITH DOT ABOVE",
    "¹SMALL LETTER R WITH DOT ABOVE¹CAPITAL LETTER R WITH DOT BELOW",
    "¹SMALL LETTER R WITH DOT BELOW¹CAPITAL LETTER R WITH DOT BELOW AND MACRON",
    "¹SMALL LETTER R WITH DOT BELOW AND MACRON¹CAPITAL LETTER R WITH LINE BELOW",
    "¹SMALL LETTER R WITH LINE BELOW¹CAPITAL LETTER S WITH DOT ABOVE",
    "¹SMALL LETTER S WITH DOT ABOVE¹CAPITAL LETTER S WITH DOT BELOW",
    "¹SMALL LETTER S WITH DOT BELOW¹CAPITAL LETTER S WITH ACUTE AND DOT ABOVE",
    "¹SMALL LETTER S WITH ACUTE AND DOT ABOVE¹CAPITAL LETTER S WITH CARON AND DOT ABOVE",
    "¹SMALL LETTER S WITH CARON AND DOT ABOVE¹CAPITAL LETTER S WITH DOT BELOW AND DOT ABOVE",
    "¹SMALL LETTER S WITH DOT BELOW AND DOT ABOVE¹CAPITAL LETTER T WITH DOT ABOVE",
    "¹SMALL LETTER T WITH DOT ABOVE¹CAPITAL LETTER T WITH DOT BELOW",
    "¹SMALL LETTER T WITH DOT BELOW¹CAPITAL LETTER T WITH LINE BELOW",
    "¹SMALL LETTER T WITH LINE BELOW¹CAPITAL LETTER T WITH CIRCUMFLEX BELOW",
    "¹SMALL LETTER T WITH CIRCUMFLEX BELOW¹CAPITAL LETTER U WITH DIAERESIS BELOW",
    "¹SMALL LETTER U WITH DIAERESIS BELOW¹CAPITAL LETTER U WITH TILDE BELOW",
    "¹SMALL LETTER U WITH TILDE BELOW¹CAPITAL LETTER U WITH CIRCUMFLEX BELOW",
    "¹SMALL LETTER U WITH CIRCUMFLEX BELOW¹CAPITAL LETTER U WITH TILDE AND ACUTE",
    "¹SMALL LETTER U WITH TILDE AND ACUTE¹CAPITAL LETTER U WITH MACRON AND DIAERESIS",
    "¹SMALL LETTER U WITH MACRON AND DIAERESIS¹CAPITAL LETTER V WITH TILDE",
    "¹SMALL LETTER V WITH TILDE¹CAPITAL LETTER V WITH DOT BELOW¹SMALL LETTER V WITH DOT BELOW",
    "¹CAPITAL LETTER W WITH GRAVE¹SMALL LETTER W WITH GRAVE¹CAPITAL LETTER W WITH ACUTE",
    "¹SMALL LETTER W WITH ACUTE¹CAPITAL LETTER W WITH DIAERESIS¹SMALL LETTER W WITH DIAERESIS",
    "¹CAPITAL LETTER W WITH DOT ABOVE¹SMALL LETTER W WITH DOT ABOVE",
    "¹CAPITAL LETTER W WITH DOT BELOW¹SMALL LETTER W WITH DOT BELOW",
    "¹CAPITAL LETTER X WITH DOT ABOVE¹SMALL LETTER X WITH DOT ABOVE",
    "¹CAPITAL LETTER X WITH DIAERESIS¹SMALL LETTER X WITH DIAERESIS",
    "¹CAPITAL LETTER Y WITH DOT ABOVE¹SMALL LETTER Y WITH DOT ABOVE",
    "¹CAPITAL LETTER Z WITH CIRCUMFLEX¹SMALL LETTER Z WITH CIRCUMFLEX",
    "¹CAPITAL LETTER Z WITH DOT BELOW¹SMALL LETTER Z WITH DOT BELOW",
    "¹CAPITAL LETTER Z WITH LINE BELOW¹SMALL LETTER Z WITH LINE BELOW³H WITH LINE BELOW",
    "³T WITH DIAERESIS³W WITH RING ABOVE³Y WITH RING ABOVE³A WITH RIGHT HALF RING",
    "³LONG S WITH DOT ABOVE⁶DIAGONAL STROKE⁶HIGH STROKE¹CAPITAL LETTER SHARP S",
    "¹SMALL LETTER DELTA¹CAPITAL LETTER A WITH DOT BELOW¹SMALL LETTER A WITH DOT BELOW",
    "¹CAPITAL LETTER A WITH HOOK ABOVE¹SMALL LETTER A WITH HOOK ABOVE",
    "¹CAPITAL LETTER A WITH CIRCUMFLEX AND ACUTE¹SMALL LETTER A WITH CIRCUMFLEX AND ACUTE",
    "¹CAPITAL LETTER A WITH CIRCUMFLEX AND GRAVE¹SMALL LETTER A WITH CIRCUMFLEX AND GRAVE",
    "¹CAPITAL LETTER A WITH CIRCUMFLEX AND HOOK ABOVE",
    "¹SMALL LETTER A WITH CIRCUMFLEX AND HOOK ABOVE",
    "¹CAPITAL LETTER A WITH CIRCUMFLEX AND TILDE¹SMALL LETTER A WITH CIRCUMFLEX AND TILDE",
    "¹CAPITAL LETTER A WITH CIRCUMFLEX AND DOT BELOW",
    "¹SMALL LETTER A WITH CIRCUMFLEX AND DOT BELOW¹CAPITAL LETTER A WITH BREVE AND ACUTE",
    "¹SMALL LETTER A WITH BREVE AND ACUTE¹CAPITAL LETTER A WITH BREVE AND GRAVE",
    "¹SMALL LETTER A WITH BREVE AND GRAVE¹CAPITAL LETTER A WITH BREVE AND HOOK ABOVE",
    "¹SMALL LETTER A WITH BREVE AND HOOK ABOVE¹CAPITAL LETTER A WITH BREVE AND TILDE",
    "¹SMALL LETTER A WITH BREVE AND TILDE¹CAPITAL LETTER A WITH BREVE AND DOT BELOW",
    "¹SMALL LETTER A WITH BREVE AND DOT BELOW¹CAPITAL LETTER E WITH DOT BELOW",
    "¹SMALL LETTER E WITH DOT BELOW¹CAPITAL LETTER E WITH HOOK ABOVE",
    "¹SMALL LETTER E WITH HOOK ABOVE¹CAPITAL LETTER E WITH TILDE¹SMALL LETTER E WITH TILDE",
    "¹CAPITAL LETTER E WITH CIRCUMFLEX AND ACUTE¹SMALL LETTER E WITH CIRCUMFLEX AND ACUTE",
    "¹CAPITAL LETTER E WITH CIRCUMFLEX AND GRAVE¹SMALL LETTER E WITH CIRCUMFLEX AND GRAVE",
    "¹CAPITAL LETTER E WITH CIRCUMFLEX AND HOOK ABOVE",
    "¹SMALL LETTER E WITH CIRCUMFLEX AND HOOK ABOVE",
    "¹CAPITAL LETTER E WITH CIRCUMFLEX AND TILDE¹SMALL LETTER E WITH CIRCUMFLEX AND TILDE",
    "¹CAPITAL LETTER E WITH CIRCUMFLEX AND DOT BELOW",
    "¹SMALL LETTER E WITH CIRCUMFLEX AND DOT BELOW¹CAPITAL LETTER I WITH HOOK ABOVE",
    "¹SMALL LETTER I WITH HOOK ABOVE¹CAPITAL LETTER I WITH DOT BELOW",
    "¹SMALL LETTER I WITH DOT BELOW¹CAPITAL LETTER O WITH DOT BELOW",
    "¹SMALL LETTER O WITH DOT BELOW¹CAPITAL LETTER O WITH HOOK ABOVE",
    "¹SMALL LETTER O WITH HOOK ABOVE¹CAPITAL LETTER O WITH CIRCUMFLEX AND ACUTE",
    "¹SMALL LETTER O WITH CIRCUMFLEX AND ACUTE¹CAPITAL LETTER O WITH CIRCUMFLEX AND GRAVE",
    "¹SMALL LETTER O WITH CIRCUMFLEX AND GRAVE",
    "¹CAPITAL LETTER O WITH CIRCUMFLEX AND HOOK ABOVE",
    "¹SMALL LETTER O WITH CIRCUMFLEX AND HOOK ABOVE",
    "¹CAPITAL LETTER O WITH CIRCUMFLEX AND TILDE¹SMALL LETTER O WITH CIRCUMFLEX AND TILDE",
    "¹CAPITAL LETTER O WITH CIRCUMFLEX AND DOT BELOW",
    "¹SMALL LETTER O WITH CIRCUMFLEX AND DOT BELOW¹CAPITAL LETTER O WITH HORN AND ACUTE",
    "¹SMALL LETTER O WITH HORN AND ACUTE¹CAPITAL LETTER O WITH HORN AND GRAVE",
    "¹SMALL LETTER O WITH HORN AND GRAVE¹CAPITAL LETTER O WITH HORN AND HOOK ABOVE",
    "¹SMALL LETTER O WITH HORN AND HOOK ABOVE¹CAPITAL LETTER O WITH HORN AND TILDE",
    "¹SMALL LETTER O WITH HORN AND TILDE¹CAPITAL LETTER O WITH HORN AND DOT BELOW",
    "¹SMALL LETTER O WITH HORN AND DOT BELOW¹CAPITAL LETTER U WITH DOT BELOW",
    "¹SMALL LETTER U WITH DOT BELOW¹CAPITAL LETTER U WITH HOOK ABOVE",
    "¹SMALL LETTER U WITH HOOK ABOVE¹CAPITAL LETTER U WITH HORN AND ACUTE",
    "¹SMALL LETTER U WITH HORN AND ACUTE¹CAPITAL LETTER U WITH HORN AND GRAVE",
    "¹SMALL LETTER U WITH HORN AND GRAVE¹CAPITAL LETTER U WITH HORN AND HOOK ABOVE",
    "¹SMALL LETTER U WITH HORN AND HOOK ABOVE¹CAPITAL LETTER U WITH HORN AND TILDE",
    "¹SMALL LETTER U WITH HORN AND TILDE¹CAPITAL LETTER U WITH HORN AND DOT BELOW",
    "¹SMALL LETTER U WITH HORN AND DOT BELOW¹CAPITAL LETTER Y WITH GRAVE",
    "¹SMALL LETTER Y WITH GRAVE¹CAPITAL LETTER Y WITH DOT BELOW¹SMALL LETTER Y WITH DOT BELOW",
    "¹CAPITAL LETTER Y WITH HOOK ABOVE¹SMALL LETTER Y WITH HOOK ABOVE",
    "¹CAPITAL LETTER Y WITH TILDE¹SMALL LETTER Y WITH TILDE¹CAPITAL LETTER MIDDLE-WELSH LL",
    "¹SMALL LETTER MIDDLE-WELSH LL¹CAPITAL LETTER MIDDLE-WELSH V¹SMALL LETTER MIDDLE-WELSH V",
    "¹CAPITAL LETTER Y WITH LOOP¹SMALL LETTER Y WITH LOOP⁰GREEK SMALL LETTER ALPHA WITH PSILI",
    "⁵DASIA⁵PSILI AND VARIA⁵DASIA AND VARIA⁵PSILI AND OXIA⁵DASIA AND OXIA",
    "⁵PSILI AND PERISPOMENI⁵DASIA AND PERISPOMENI¹CAPITAL LETTER ALPHA WITH PSILI⁵DASIA",
    "⁵PSILI AND VARIA⁵DASIA AND VARIA⁵PSILI AND OXIA⁵DASIA AND OXIA⁵PSILI AND PERISPOMENI",
    "⁵DASIA AND PERISPOMENI¹SMALL LETTER EPSILON WITH PSILI⁵DASIA⁵PSILI AND VARIA",
    "⁵DASIA AND VARIA⁵PSILI AND OXIA⁵DASIA AND OXIA"]⟩,
  ⟨0x1f18, [
    "⁰GREEK CAPITAL LETTER EPSILON WITH PSILI⁵DASIA⁵PSILI AND VARIA⁵DASIA AND VARIA",
    "⁵PSILI AND OXIA⁵DASIA AND OXIA"]⟩,
  ⟨0x1f20, [
    "⁰GREEK SMALL LETTER ETA WITH PSILI⁵DASIA⁵PSILI AND VARIA⁵DASIA AND VARIA⁵PSILI AND OXIA",
    "⁵DASIA AND OXIA⁵PSILI AND PERISPOMENI⁵DASIA AND PERISPOMENI",
    "¹CAPITAL LETTER ETA WITH PSILI⁵DASIA⁵PSILI AND VARIA⁵DASIA AND VARIA⁵PSILI AND OXIA",
    "⁵DASIA AND OXIA⁵PSILI AND PERISPOMENI⁵DASIA AND PERISPOMENI¹SMALL LETTER IOTA WITH PSILI",
    "⁵DASIA⁵PSILI AND VARIA⁵DASIA AND VARIA⁵PSILI AND OXIA⁵DASIA AND OXIA",
    "⁵PSILI AND PERISPOMENI⁵DASIA AND PERISPOMENI¹CAPITAL LETTER IOTA WITH PSILI⁵DASIA",
    "⁵PSILI AND VARIA⁵DASIA AND VARIA⁵PSILI AND OXIA⁵DASIA AND OXIA⁵PSILI AND PERISPOMENI",
    "⁵DASIA AND PERISPOMENI¹SMALL LETTER OMICRON WITH PSILI⁵DASIA⁵PSILI AND VARIA",
    "⁵DASIA AND VARIA⁵PSILI AND OXIA⁵DASIA AND OXIA"]⟩,
  ⟨0x1f48, [
    "⁰GREEK CAPITAL LETTER OMICRON WITH PSILI⁵DASIA⁵PSILI AND VARIA⁵DASIA AND VARIA",
    "⁵PSILI AND OXIA⁵DASIA AND OXIA"]⟩,
  ⟨0x1f50, [
    "⁰GREEK SMALL LETTER UPSILON WITH PSILI⁵DASIA⁵PSILI AND VARIA⁵DASIA AND VARIA",
    "⁵PSILI AND OXIA⁵DASIA AND OXIA⁵PSILI AND PERISPOMENI⁵DASIA AND PERISPOMENI"]⟩,
  ⟨0x1f59, ["⁰GREEK CAPITAL LETTER UPSILON WITH DASIA"]⟩,
  ⟨0x1f5b, ["⁰GREEK CAPITAL LETTER UPSILON WITH DASIA AND VARIA"]⟩,
  ⟨0x1f5d, ["⁰GREEK CAPITAL LETTER UPSILON WITH DASIA AND OXIA"]⟩,
  ⟨0x1f5f, [
    "⁰GREEK CAPITAL LETTER UPSILON WITH DASIA AND PERISPOMENI¹SMALL LETTER OMEGA WITH PSILI",
    "⁵DASIA⁵PSILI AND VARIA⁵DASIA AND VARIA⁵PSILI AND OXIA⁵DASIA AND OXIA",
    "⁵PSILI AND PERISPOMENI⁵DASIA AND PERISPOMENI¹CAPITAL LETTER OMEGA WITH PSILI⁵DASIA",
    "⁵PSILI AND VARIA⁵DASIA AND VARIA⁵PSILI AND OXIA⁵DASIA AND OXIA⁵PSILI AND PERISPOMENI",
    "⁵DASIA AND PERISPOMENI¹SMALL LETTER ALPHA WITH VARIA⁵OXIA³EPSILON WITH VARIA⁵OXIA",
    "³ETA WITH VARIA⁵OXIA³IOTA WITH VARIA⁵OXIA³OMICRON WITH VARIA⁵OXIA³UPSILON WITH VARIA",
    "⁵OXIA³OMEGA WITH VARIA⁵OXIA"]⟩,
  ⟨0x1f80, [
    "⁰GREEK SMALL LETTER ALPHA WITH PSILI AND YPOGEGRAMMENI⁵DASIA AND YPOGEGRAMMENI",
    "⁵PSILI AND VARIA AND YPOGEGRAMMENI⁵DASIA AND VARIA AND YPOGEGRAMMENI",
    "⁵PSILI AND OXIA AND YPOGEGRAMMENI⁵DASIA AND OXIA AND YPOGEGRAMMENI",
    "⁵PSILI AND PERISPOMENI AND YPOGEGRAMMENI⁵DASIA AND PERISPOMENI AND YPOGEGRAMMENI",
    "¹CAPITAL LETTER ALPHA WITH PSILI AND PROSGEGRAMMENI⁵DASIA AND PROSGEGRAMMENI",
    "⁵PSILI AND VARIA AND PROSGEGRAMMENI⁵DASIA AND VARIA AND PROSGEGRAMMENI",
    "⁵PSILI AND OXIA AND PROSGEGRAMMENI⁵DASIA AND OXIA AND PROSGEGRAMMENI",
    "⁵PSILI AND PERISPOMENI AND PROSGEGRAMMENI⁵DASIA AND PERISPOMENI AND PROSGEGRAMMENI",
    "¹SMALL LETTER ETA WITH PSILI AND YPOGEGRAMMENI⁵DASIA AND YPOGEGRAMMENI",
    "⁵PSILI AND VARIA AND YPOGEGRAMMENI⁵DASIA AND VARIA AND YPOGEGRAMMENI",
    "⁵PSILI AND OXIA AND YPOGEGRAMMENI⁵DASIA AND OXIA AND YPOGEGRAMMENI",
    "⁵PSILI AND PERISPOMENI AND YPOGEGRAMMENI⁵DASIA AND PERISPOMENI AND YPOGEGRAMMENI",
    "¹CAPITAL LETTER ETA WITH PSILI AND PROSGEGRAMMENI⁵DASIA AND PROSGEGRAMMENI",
    "⁵PSILI AND VARIA AND PROSGEGRAMMENI⁵DASIA AND VARIA AND PROSGEGRAMMENI",
    "⁵PSILI AND OXIA AND PROSGEGRAMMENI⁵DASIA AND OXIA AND PROSGEGRAMMENI",
    "⁵PSILI AND PERISPOMENI AND PROSGEGRAMMENI⁵DASIA AND PERISPOMENI AND PROSGEGRAMMENI",
    "¹SMALL LETTER OMEGA WITH PSILI AND YPOGEGRAMMENI⁵DASIA AND YPOGEGRAMMENI",
    "⁵PSILI AND VARIA AND YPOGEGRAMMENI⁵DASIA AND VARIA AND YPOGEGRAMMENI",
    "⁵PSILI AND OXIA AND YPOGEGRAMMENI⁵DASIA AND OXIA AND YPOGEGRAMMENI",
    "⁵PSILI AND PERISPOMENI AND YPOGEGRAMMENI⁵DASIA AND PERISPOMENI AND YPOGEGRAMMENI",
    "¹CAPITAL LETTER OMEGA WITH PSILI AND PROSGEGRAMMENI⁵DASIA AND PROSGEGRAMMENI",
    "⁵PSILI AND VARIA AND PROSGEGRAMMENI⁵DASIA AND VARIA AND PROSGEGRAMMENI",
    "⁵PSILI AND OXIA AND PROSGEGRAMMENI⁵DASIA AND OXIA AND PROSGEGRAMMENI",
    "⁵PSILI AND PERISPOMENI AND PROSGEGRAMMENI⁵DASIA AND PERISPOMENI AND PROSGEGRAMMENI",
    "¹SMALL LETTER ALPHA WITH VRACHY⁵MACRON⁵VARIA AND YPOGEGRAMMENI⁵YPOGEGRAMMENI",
    "⁵OXIA AND YPOGEGRAMMENI"]⟩,
  ⟨0x1fb6, [
    "⁰GREEK SMALL LETTER ALPHA WITH PERISPOMENI⁶AND YPOGEGRAMMENI",
    "¹CAPITAL LETTER ALPHA WITH VRACHY⁵MACRON⁵VARIA⁵OXIA⁵PROSGEGRAMMENI¹KORONIS",
    "¹PROSGEGRAMMENI¹PSILI¹PERISPOMENI¹DIALYTIKA AND PERISPOMENI",
    "¹SMALL LETTER ETA WITH VARIA AND YPOGEGRAMMENI⁵YPOGEGRAMMENI⁵OXIA AND YPOGEGRAMMENI"]⟩,
  ⟨0x1fc6, [
    "⁰GREEK SMALL LETTER ETA WITH PERISPOMENI⁶AND YPOGEGRAMMENI",
    "¹CAPITAL LETTER EPSILON WITH VARIA⁵OXIA³ETA WITH VARIA⁵OXIA⁵PROSGEGRAMMENI",
    "¹PSILI AND VARIA³OXIA³PERISPOMENI¹SMALL LETTER IOTA WITH VRACHY⁵MACRON",
    "⁵DIALYTIKA AND VARIA⁷OXIA"]⟩,
  ⟨0x1fd6, [
    "⁰GREEK SMALL LETTER IOTA WITH PERISPOMENI⁵DIALYTIKA AND PERISPOMENI",
    "¹CAPITAL LETTER IOTA WITH VRACHY⁵MACRON⁵VARIA⁵OXIA"]⟩,
  ⟨0x1fdd, [
    "⁰GREEK DASIA AND VARIA³OXIA³PERISPOMENI¹SMALL LETTER UPSILON WITH VRACHY⁵MACRON",
    "⁵DIALYTIKA AND VARIA⁷OXIA³RHO WITH PSILI⁵DASIA³UPSILON WITH PERISPOMENI",
    "⁵DIALYTIKA AND PERISPOMENI¹CAPITAL LETTER UPSILON WITH VRACHY⁵MACRON⁵VARIA⁵OXIA",
    "³RHO WITH DASIA¹DIALYTIKA AND VARIA³OXIA¹VARIA"]⟩,
  ⟨0x1ff2, [
    "⁰GREEK SMALL LETTER OMEGA WITH VARIA AND YPOGEGRAMMENI⁵YPOGEGRAMMENI",
    "⁵OXIA AND YPOGEGRAMMENI"]⟩,
  ⟨0x1ff6, [
    "⁰GREEK SMALL LETTER OMEGA WITH PERISPOMENI⁶AND YPOGEGRAMMENI",
    "¹CAPITAL LETTER OMICRON WITH VARIA⁵OXIA³OMEGA WITH VARIA⁵OXIA⁵PROSGEGRAMMENI¹OXIA¹DASIA"]⟩,
  ⟨0x2000, [
    "⁰EN QUAD⁰EM QUAD⁰EN SPACE⁰EM SPACE⁰THREE-PER-EM SPACE⁰FOUR-PER-EM SPACE⁰SIX-PER-EM SPACE",
    "⁰FIGURE SPACE⁰PUNCTUATION SPACE⁰THIN SPACE⁰HAIR SPACE⁰ZERO WIDTH SPACE²NON-JOINER²JOINER",
    "⁰LEFT-TO-RIGHT MARK⁰RIGHT-TO-LEFT MARK⁰HYPHEN⁰NON-BREAKING HYPHEN⁰FIGURE DASH⁰EN DASH",
    "⁰EM DASH⁰HORIZONTAL BAR⁰DOUBLE VERTICAL LINE¹LOW LINE⁰LEFT SINGLE QUOTATION MARK",
    "⁰RIGHT SINGLE QUOTATION MARK⁰SINGLE LOW-9 QUOTATION MARK¹HIGH-REVERSED-9 QUOTATION MARK",
    "⁰LEFT DOUBLE QUOTATION MARK⁰RIGHT DOUBLE QUOTATION MARK⁰DOUBLE LOW-9 QUOTATION MARK",
    "¹HIGH-REVERSED-9 QUOTATION MARK⁰DAGGER⁰DOUBLE DAGGER⁰BULLET⁰TRIANGULAR BULLET",
    "⁰ONE DOT LEADER⁰TWO DOT LEADER⁰HORIZONTAL ELLIPSIS⁰HYPHENATION POINT⁰LINE SEPARATOR",
    "⁰PARAGRAPH SEPARATOR⁰LEFT-TO-RIGHT EMBEDDING⁰RIGHT-TO-LEFT EMBEDDING",
    "⁰POP DIRECTIONAL FORMATTING⁰LEFT-TO-RIGHT OVERRIDE⁰RIGHT-TO-LEFT OVERRIDE",
    "⁰NARROW NO-BREAK SPACE⁰PER MILLE SIGN¹TEN THOUSAND SIGN⁰PRIME⁰DOUBLE PRIME⁰TRIPLE PRIME",
    "⁰REVERSED PRIME¹DOUBLE PRIME¹TRIPLE PRIME⁰CARET",
    "⁰SINGLE LEFT-POINTING ANGLE QUOTATION MARK¹RIGHT-POINTING ANGLE QUOTATION MARK",
    "⁰REFERENCE MARK⁰DOUBLE EXCLAMATION MARK⁰INTERROBANG⁰OVERLINE⁰UNDERTIE⁰CHARACTER TIE",
    "⁰CARET INSERTION POINT⁰ASTERISM⁰HYPHEN BULLET⁰FRACTION SLASH",
    "⁰LEFT SQUARE BRACKET WITH QUILL⁰RIGHT SQUARE BRACKET WITH QUILL⁰DOUBLE QUESTION MARK",
    "⁰QUESTION EXCLAMATION MARK⁰EXCLAMATION QUESTION MARK⁰TIRONIAN SIGN ET",
    "⁰REVERSED PILCROW SIGN⁰BLACK LEFTWARDS BULLET¹RIGHTWARDS BULLET⁰LOW ASTERISK",
    "⁰REVERSED SEMICOLON⁰CLOSE UP⁰TWO ASTERISKS ALIGNED VERTICALLY⁰COMMERCIAL MINUS SIGN",
    "⁰SWUNG DASH⁰INVERTED UNDERTIE⁰FLOWER PUNCTUATION MARK⁰THREE DOT PUNCTUATION",
    "⁰QUADRUPLE PRIME⁰FOUR DOT PUNCTUATION⁰FIVE DOT PUNCTUATION⁰TWO DOT PUNCTUATION",
    "⁰FOUR DOT MARK⁰DOTTED CROSS⁰TRICOLON⁰VERTICAL FOUR DOTS⁰MEDIUM MATHEMATICAL SPACE",
    "⁰WORD JOINER⁰FUNCTION APPLICATION⁰INVISIBLE TIMES¹SEPARATOR¹PLUS"]⟩,
  ⟨0x2066, [
    "⁰LEFT-TO-RIGHT ISOLATE⁰RIGHT-TO-LEFT ISOLATE⁰FIRST STRONG ISOLATE",
    "⁰POP DIRECTIONAL ISOLATE⁰INHIBIT SYMMETRIC SWAPPING⁰ACTIVATE SYMMETRIC SWAPPING",
    "⁰INHIBIT ARABIC FORM SHAPING⁰ACTIVATE ARABIC FORM SHAPING⁰NATIONAL DIGIT SHAPES",
    "⁰NOMINAL DIGIT SHAPES⁰SUPERSCRIPT ZERO¹LATIN SMALL LETTER I"]⟩,
  ⟨0x2074, [
    "⁰SUPERSCRIPT FOUR¹FIVE¹SIX¹SEVEN¹EIGHT¹NINE¹PLUS SIGN¹MINUS¹EQUALS SIGN¹LEFT PARENTHESIS",
    "¹RIGHT PARENTHESIS¹LATIN SMALL LETTER N⁰SUBSCRIPT ZERO¹ONE¹TWO¹THREE¹FOUR¹FIVE¹SIX¹SEVEN",
    "¹EIGHT¹NINE¹PLUS SIGN¹MINUS¹EQUALS SIGN¹LEFT PARENTHESIS¹RIGHT PARENTHESIS"]⟩,
  ⟨0x2090, ["⁰LATIN SUBSCRIPT SMALL LETTER A⁴E⁴O⁴X⁴SCHWA⁴H⁴K⁴L⁴M⁴N⁴P⁴S⁴T"]⟩,
  ⟨0x20a0, [
    "⁰EURO-CURRENCY SIGN⁰COLON SIGN⁰CRUZEIRO SIGN⁰FRENCH FRANC SIGN⁰LIRA SIGN⁰MILL SIGN",
    "⁰NAIRA SIGN⁰PESETA SIGN⁰RUPEE SIGN⁰WON SIGN⁰NEW SHEQEL SIGN⁰DONG SIGN⁰EURO SIGN⁰KIP SIGN",
    "⁰TUGRIK SIGN⁰DRACHMA SIGN⁰GERMAN PENNY SIGN⁰PESO SIGN⁰GUARANI SIGN⁰AUSTRAL SIGN",
    "⁰HRYVNIA SIGN⁰CEDI SIGN⁰LIVRE TOURNOIS SIGN⁰SPESMILO SIGN⁰TENGE SIGN⁰INDIAN RUPEE SIGN",
    "⁰TURKISH LIRA SIGN⁰NORDIC MARK SIGN⁰MANAT SIGN⁰RUBLE SIGN⁰LARI SIGN⁰BITCOIN SIGN",
    "⁰SOM SIGN"]⟩,
  ⟨0x20d0, [
    "⁰COMBINING LEFT HARPOON ABOVE¹RIGHT HARPOON ABOVE¹LONG VERTICAL LINE OVERLAY",
    "¹SHORT VERTICAL LINE OVERLAY¹ANTICLOCKWISE ARROW ABOVE¹CLOCKWISE ARROW ABOVE",
    "¹LEFT ARROW ABOVE¹RIGHT ARROW ABOVE¹RING OVERLAY¹CLOCKWISE RING OVERLAY",
    "¹ANTICLOCKWISE RING OVERLAY¹THREE DOTS ABOVE¹FOUR DOTS ABOVE¹ENCLOSING CIRCLE²SQUARE",
    "²DIAMOND²CIRCLE BACKSLASH¹LEFT RIGHT ARROW ABOVE¹ENCLOSING SCREEN²KEYCAP",
    "²UPWARD POINTING TRIANGLE¹REVERSE SOLIDUS OVERLAY¹DOUBLE VERTICAL STROKE OVERLAY",
    "¹ANNUITY SYMBOL¹TRIPLE UNDERDOT¹WIDE BRIDGE ABOVE¹LEFTWARDS ARROW OVERLAY",
    "¹LONG DOUBLE SOLIDUS OVERLAY¹RIGHTWARDS HARPOON WITH BARB DOWNWARDS",
    "¹LEFTWARDS HARPOON WITH BARB DOWNWARDS¹LEFT ARROW BELOW¹RIGHT ARROW BELOW¹ASTERISK ABOVE"]⟩,
  ⟨0x2100, [
    "⁰ACCOUNT OF⁰ADDRESSED TO THE SUBJECT⁰DOUBLE-STRUCK CAPITAL C⁰DEGREE CELSIUS",
    "⁰CENTRE LINE SYMBOL⁰CARE OF⁰CADA UNA⁰EULER CONSTANT⁰SCRUPLE⁰DEGREE FAHRENHEIT",
    "⁰SCRIPT SMALL G¹CAPITAL H⁰BLACK-LETTER CAPITAL H⁰DOUBLE-STRUCK CAPITAL H⁰PLANCK CONSTANT",
    "²OVER TWO PI⁰SCRIPT CAPITAL I⁰BLACK-LETTER CAPITAL I⁰SCRIPT CAPITAL L¹SMALL L",
    "⁰L B BAR SYMBOL⁰DOUBLE-STRUCK CAPITAL N⁰NUMERO SIGN⁰SOUND RECORDING COPYRIGHT",
    "⁰SCRIPT CAPITAL P⁰DOUBLE-STRUCK CAPITAL P²Q⁰SCRIPT CAPITAL R⁰BLACK-LETTER CAPITAL R",
    "⁰DOUBLE-STRUCK CAPITAL R⁰PRESCRIPTION TAKE⁰RESPONSE⁰SERVICE MARK⁰TELEPHONE SIGN",
    "⁰TRADE MARK SIGN⁰VERSICLE⁰DOUBLE-STRUCK CAPITAL Z⁰OUNCE SIGN⁰OHM SIGN⁰INVERTED OHM SIGN",
    "⁰BLACK-LETTER CAPITAL Z⁰TURNED GREEK SMALL LETTER IOTA⁰KELVIN SIGN⁰ANGSTROM SIGN",
    "⁰SCRIPT CAPITAL B⁰BLACK-LETTER CAPITAL C⁰ESTIMATED SYMBOL⁰SCRIPT SMALL E¹CAPITAL E²F",
    "⁰TURNED CAPITAL F⁰SCRIPT CAPITAL M¹SMALL O⁰ALEF SYMBOL⁰BET SYMBOL⁰GIMEL SYMBOL",
    "⁰DALET SYMBOL⁰INFORMATION SOURCE⁰ROTATED CAPITAL Q⁰FACSIMILE SIGN⁰DOUBLE-STRUCK SMALL PI",
    "²GAMMA¹CAPITAL GAMMA²PI¹N-ARY SUMMATION⁰TURNED SANS-SERIF CAPITAL G³L",
    "⁰REVERSED SANS-SERIF CAPITAL L⁰TURNED SANS-SERIF CAPITAL Y",
    "⁰DOUBLE-STRUCK ITALIC CAPITAL D²SMALL D³E³I³J⁰PROPERTY LINE⁰TURNED AMPERSAND⁰PER SIGN",
    "⁰AKTIESELSKAB⁰TURNED SMALL F⁰SYMBOL FOR SAMARITAN SOURCE⁰VULGAR FRACTION ONE SEVENTH",
    "³NINTH³TENTH³THIRD²TWO THIRDS²ONE FIFTH²TWO FIFTHS²THREE FIFTHS²FOUR FIFTHS²ONE SIXTH",
    "²FIVE SIXTHS²ONE EIGHTH²THREE EIGHTHS²FIVE EIGHTHS²SEVEN EIGHTHS⁰FRACTION NUMERATOR ONE",
    "⁰ROMAN NUMERAL ONE²TWO²THREE²FOUR²FIVE²SIX²SEVEN²EIGHT²NINE²TEN²ELEVEN²TWELVE²FIFTY",
    "²ONE HUNDRED²FIVE HUNDRED²ONE THOUSAND⁰SMALL ROMAN NUMERAL ONE³TWO³THREE³FOUR³FIVE³SIX",
    "³SEVEN³EIGHT³NINE³TEN³ELEVEN³TWELVE³FIFTY³ONE HUNDRED³FIVE HUNDRED³ONE THOUSAND",
    "⁰ROMAN NUMERAL ONE THOUSAND C D²FIVE THOUSAND²TEN THOUSAND²REVERSED ONE HUNDRED",
    "⁰LATIN SMALL LETTER REVERSED C⁰ROMAN NUMERAL SIX LATE FORM²FIFTY EARLY FORM³THOUSAND",
    "²ONE HUNDRED THOUSAND⁰VULGAR FRACTION ZERO THIRDS⁰TURNED DIGIT TWO²THREE"]⟩,
  ⟨0x2190, [
    "⁰LEFTWARDS ARROW⁰UPWARDS ARROW⁰RIGHTWARDS ARROW⁰DOWNWARDS ARROW⁰LEFT RIGHT ARROW",
    "⁰UP DOWN ARROW⁰NORTH WEST ARROW¹EAST ARROW⁰SOUTH EAST ARROW¹WEST ARROW",
    "⁰LEFTWARDS ARROW WITH STROKE⁰RIGHTWARDS ARROW WITH STROKE⁰LEFTWARDS WAVE ARROW",
    "⁰RIGHTWARDS WAVE ARROW⁰LEFTWARDS TWO HEADED ARROW⁰UPWARDS TWO HEADED ARROW",
    "⁰RIGHTWARDS TWO HEADED ARROW⁰DOWNWARDS TWO HEADED ARROW⁰LEFTWARDS ARROW WITH TAIL",
    "⁰RIGHTWARDS ARROW WITH TAIL⁰LEFTWARDS ARROW FROM BAR⁰UPWARDS ARROW FROM BAR",
    "⁰RIGHTWARDS ARROW FROM BAR⁰DOWNWARDS ARROW FROM BAR⁰UP DOWN ARROW WITH BASE",
    "⁰LEFTWARDS ARROW WITH HOOK⁰RIGHTWARDS ARROW WITH HOOK⁰LEFTWARDS ARROW WITH LOOP",
    "⁰RIGHTWARDS ARROW WITH LOOP⁰LEFT RIGHT WAVE ARROW²ARROW WITH STROKE",
    "⁰DOWNWARDS ZIGZAG ARROW⁰UPWARDS ARROW WITH TIP LEFTWARDS⁴RIGHTWARDS",
    "⁰DOWNWARDS ARROW WITH TIP LEFTWARDS⁴RIGHTWARDS⁰RIGHTWARDS ARROW WITH CORNER DOWNWARDS",
    "⁰DOWNWARDS ARROW WITH CORNER LEFTWARDS⁰ANTICLOCKWISE TOP SEMICIRCLE ARROW",
    "⁰CLOCKWISE TOP SEMICIRCLE ARROW⁰NORTH WEST ARROW TO LONG BAR",
    "⁰LEFTWARDS ARROW TO BAR OVER RIGHTWARDS ARROW TO BAR⁰ANTICLOCKWISE OPEN CIRCLE ARROW",
    "⁰CLOCKWISE OPEN CIRCLE ARROW⁰LEFTWARDS HARPOON WITH BARB UPWARDS⁴DOWNWARDS",
    "⁰UPWARDS HARPOON WITH BARB RIGHTWARDS⁴LEFTWARDS⁰RIGHTWARDS HARPOON WITH BARB UPWARDS",
    "⁴DOWNWARDS⁰DOWNWARDS HARPOON WITH BARB RIGHTWARDS⁴LEFTWARDS",
    "⁰RIGHTWARDS ARROW OVER LEFTWARDS ARROW⁰UPWARDS ARROW LEFTWARDS OF DOWNWARDS ARROW",
    "⁰LEFTWARDS ARROW OVER RIGHTWARDS ARROW¹PAIRED ARROWS⁰UPWARDS PAIRED ARROWS",
    "⁰RIGHTWARDS PAIRED ARROWS⁰DOWNWARDS PAIRED ARROWS",
    "⁰LEFTWARDS HARPOON OVER RIGHTWARDS HARPOON⁰RIGHTWARDS HARPOON OVER LEFTWARDS HARPOON",
    "⁰LEFTWARDS DOUBLE ARROW WITH STROKE⁰LEFT RIGHT DOUBLE ARROW WITH STROKE",
    "⁰RIGHTWARDS DOUBLE ARROW WITH STROKE⁰LEFTWARDS DOUBLE ARROW⁰UPWARDS DOUBLE ARROW",
    "⁰RIGHTWARDS DOUBLE ARROW⁰DOWNWARDS DOUBLE ARROW⁰LEFT RIGHT DOUBLE ARROW",
    "⁰UP DOWN DOUBLE ARROW⁰NORTH WEST DOUBLE ARROW¹EAST DOUBLE ARROW⁰SOUTH EAST DOUBLE ARROW",
    "¹WEST DOUBLE ARROW⁰LEFTWARDS TRIPLE ARROW⁰RIGHTWARDS TRIPLE ARROW",
    "⁰LEFTWARDS SQUIGGLE ARROW⁰RIGHTWARDS SQUIGGLE ARROW⁰UPWARDS ARROW WITH DOUBLE STROKE",
    "⁰DOWNWARDS ARROW WITH DOUBLE STROKE⁰LEFTWARDS DASHED ARROW⁰UPWARDS DASHED ARROW",
    "⁰RIGHTWARDS DASHED ARROW⁰DOWNWARDS DASHED ARROW⁰LEFTWARDS ARROW TO BAR",
    "⁰RIGHTWARDS ARROW TO BAR⁰LEFTWARDS WHITE ARROW⁰UPWARDS WHITE ARROW",
    "⁰RIGHTWARDS WHITE ARROW⁰DOWNWARDS WHITE ARROW⁰UPWARDS WHITE ARROW FROM BAR³ON PEDESTAL",
    "⁵WITH HORIZONTAL BAR⁶VERTICAL BAR²DOUBLE ARROW⁴ON PEDESTAL",
    "⁰RIGHTWARDS WHITE ARROW FROM WALL⁰NORTH WEST ARROW TO CORNER⁰SOUTH EAST ARROW TO CORNER",
    "⁰UP DOWN WHITE ARROW⁰RIGHT ARROW WITH SMALL CIRCLE",
    "⁰DOWNWARDS ARROW LEFTWARDS OF UPWARDS ARROW⁰THREE RIGHTWARDS ARROWS",
    "⁰LEFTWARDS ARROW WITH VERTICAL STROKE⁰RIGHTWARDS ARROW WITH VERTICAL STROKE",
    "⁰LEFT RIGHT ARROW WITH VERTICAL STROKE⁰LEFTWARDS ARROW WITH DOUBLE VERTICAL STROKE",
    "⁰RIGHTWARDS ARROW WITH DOUBLE VERTICAL STROKE",
    "⁰LEFT RIGHT ARROW WITH DOUBLE VERTICAL STROKE⁰LEFTWARDS OPEN-HEADED ARROW",
    "⁰RIGHTWARDS OPEN-HEADED ARROW⁰LEFT RIGHT OPEN-HEADED ARROW⁰FOR ALL⁰COMPLEMENT",
    "⁰PARTIAL DIFFERENTIAL⁰THERE EXISTS¹DOES NOT EXIST⁰EMPTY SET⁰INCREMENT⁰NABLA⁰ELEMENT OF",
    "⁰NOT AN ELEMENT OF⁰SMALL ELEMENT OF⁰CONTAINS AS MEMBER⁰DOES NOT CONTAIN AS MEMBER",
    "⁰SMALL CONTAINS AS MEMBER⁰END OF PROOF⁰N-ARY PRODUCT¹COPRODUCT¹SUMMATION⁰MINUS SIGN",
    "⁰MINUS-OR-PLUS SIGN⁰DOT PLUS⁰DIVISION SLASH⁰SET MINUS⁰ASTERISK OPERATOR⁰RING OPERATOR",
    "⁰BULLET OPERATOR⁰SQUARE ROOT⁰CUBE ROOT⁰FOURTH ROOT⁰PROPORTIONAL TO⁰INFINITY⁰RIGHT ANGLE",
    "⁰ANGLE⁰MEASURED ANGLE⁰SPHERICAL ANGLE⁰DIVIDES⁰DOES NOT DIVIDE⁰PARALLEL TO",
    "⁰NOT PARALLEL TO⁰LOGICAL AND¹OR⁰INTERSECTION⁰UNION⁰INTEGRAL⁰DOUBLE INTEGRAL",
    "⁰TRIPLE INTEGRAL⁰CONTOUR INTEGRAL⁰SURFACE INTEGRAL⁰VOLUME INTEGRAL⁰CLOCKWISE INTEGRAL",
    "¹CONTOUR INTEGRAL⁰ANTICLOCKWISE CONTOUR INTEGRAL⁰THEREFORE⁰BECAUSE⁰RATIO⁰PROPORTION",
    "⁰DOT MINUS⁰EXCESS⁰GEOMETRIC PROPORTION⁰HOMOTHETIC⁰TILDE OPERATOR⁰REVERSED TILDE",
    "⁰INVERTED LAZY S⁰SINE WAVE⁰WREATH PRODUCT⁰NOT TILDE⁰MINUS TILDE⁰ASYMPTOTICALLY EQUAL TO",
    "⁰NOT ASYMPTOTICALLY EQUAL TO⁰APPROXIMATELY EQUAL TO¹BUT NOT ACTUALLY EQUAL TO",
    "⁰NEITHER APPROXIMATELY NOR ACTUALLY EQUAL TO⁰ALMOST EQUAL TO⁰NOT ALMOST EQUAL TO",
    "⁰ALMOST EQUAL OR EQUAL TO⁰TRIPLE TILDE⁰ALL EQUAL TO⁰EQUIVALENT TO",
    "⁰GEOMETRICALLY EQUIVALENT TO⁰DIFFERENCE BETWEEN⁰APPROACHES THE LIMIT",
    "⁰GEOMETRICALLY EQUAL TO⁰APPROXIMATELY EQUAL TO OR THE IMAGE OF",
    "⁰IMAGE OF OR APPROXIMATELY EQUAL TO⁰COLON EQUALS⁰EQUALS COLON⁰RING IN EQUAL TO¹EQUAL TO",
    "⁰CORRESPONDS TO⁰ESTIMATES⁰EQUIANGULAR TO⁰STAR EQUALS⁰DELTA EQUAL TO",
    "⁰EQUAL TO BY DEFINITION⁰MEASURED BY⁰QUESTIONED EQUAL TO⁰NOT EQUAL TO⁰IDENTICAL TO",
    "⁰NOT IDENTICAL TO⁰STRICTLY EQUIVALENT TO⁰LESS-THAN OR EQUAL TO⁰GREATER-THAN OR EQUAL TO",
    "⁰LESS-THAN OVER EQUAL TO⁰GREATER-THAN OVER EQUAL TO⁰LESS-THAN BUT NOT EQUAL TO",
    "⁰GREATER-THAN BUT NOT EQUAL TO⁰MUCH LESS-THAN¹GREATER-THAN⁰BETWEEN⁰NOT EQUIVALENT TO",
    "¹LESS-THAN¹GREATER-THAN⁰NEITHER LESS-THAN NOR EQUAL TO¹GREATER-THAN NOR EQUAL TO",
    "⁰LESS-THAN OR EQUIVALENT TO⁰GREATER-THAN OR EQUIVALENT TO",
    "⁰NEITHER LESS-THAN NOR EQUIVALENT TO¹GREATER-THAN NOR EQUIVALENT TO",
    "⁰LESS-THAN OR GREATER-THAN⁰GREATER-THAN OR LESS-THAN⁰NEITHER LESS-THAN NOR GREATER-THAN",
    "¹GREATER-THAN NOR LESS-THAN⁰PRECEDES⁰SUCCEEDS⁰PRECEDES OR EQUAL TO⁰SUCCEEDS OR EQUAL TO",
    "⁰PRECEDES OR EQUIVALENT TO⁰SUCCEEDS OR EQUIVALENT TO⁰DOES NOT PRECEDE²SUCCEED⁰SUBSET OF",
    "⁰SUPERSET OF⁰NOT A SUBSET OF²SUPERSET OF⁰SUBSET OF OR EQUAL TO⁰SUPERSET OF OR EQUAL TO",
    "⁰NEITHER A SUBSET OF NOR EQUAL TO²SUPERSET OF NOR EQUAL TO⁰SUBSET OF WITH NOT EQUAL TO",
    "⁰SUPERSET OF WITH NOT EQUAL TO⁰MULTISET¹MULTIPLICATION¹UNION⁰SQUARE IMAGE OF¹ORIGINAL OF",
    "¹IMAGE OF OR EQUAL TO¹ORIGINAL OF OR EQUAL TO¹CAP¹CUP⁰CIRCLED PLUS¹MINUS¹TIMES",
    "¹DIVISION SLASH¹DOT OPERATOR¹RING OPERATOR¹ASTERISK OPERATOR¹EQUALS¹DASH⁰SQUARED PLUS",
    "¹MINUS¹TIMES¹DOT OPERATOR⁰RIGHT TACK⁰LEFT TACK⁰DOWN TACK⁰UP TACK⁰ASSERTION⁰MODELS⁰TRUE",
    "⁰FORCES⁰TRIPLE VERTICAL BAR RIGHT TURNSTILE⁰DOUBLE VERTICAL BAR DOUBLE RIGHT TURNSTILE",
    "⁰DOES NOT PROVE⁰NOT TRUE⁰DOES NOT FORCE",
    "⁰NEGATED DOUBLE VERTICAL BAR DOUBLE RIGHT TURNSTILE⁰PRECEDES UNDER RELATION",
    "⁰SUCCEEDS UNDER RELATION⁰NORMAL SUBGROUP OF⁰CONTAINS AS NORMAL SUBGROUP",
    "⁰NORMAL SUBGROUP OF OR EQUAL TO⁰CONTAINS AS NORMAL SUBGROUP OR EQUAL TO⁰ORIGINAL OF",
    "⁰IMAGE OF⁰MULTIMAP⁰HERMITIAN CONJUGATE MATRIX⁰INTERCALATE⁰XOR⁰NAND⁰NOR",
    "⁰RIGHT ANGLE WITH ARC¹TRIANGLE⁰N-ARY LOGICAL AND²OR¹INTERSECTION¹UNION⁰DIAMOND OPERATOR",
    "⁰DOT OPERATOR⁰STAR OPERATOR⁰DIVISION TIMES⁰BOWTIE⁰LEFT NORMAL FACTOR SEMIDIRECT PRODUCT",
    "⁰RIGHT NORMAL FACTOR SEMIDIRECT PRODUCT⁰LEFT SEMIDIRECT PRODUCT⁰RIGHT SEMIDIRECT PRODUCT",
    "⁰REVERSED TILDE EQUALS⁰CURLY LOGICAL OR²AND⁰DOUBLE SUBSET¹SUPERSET¹INTERSECTION¹UNION",
    "⁰PITCHFORK⁰EQUAL AND PARALLEL TO⁰LESS-THAN WITH DOT⁰GREATER-THAN WITH DOT",
    "⁰VERY MUCH LESS-THAN²GREATER-THAN⁰LESS-THAN EQUAL TO OR GREATER-THAN",
    "⁰GREATER-THAN EQUAL TO OR LESS-THAN⁰EQUAL TO OR LESS-THAN³GREATER-THAN³PRECEDES³SUCCEEDS",
    "⁰DOES NOT PRECEDE OR EQUAL²SUCCEED OR EQUAL⁰NOT SQUARE IMAGE OF OR EQUAL TO",
    "²ORIGINAL OF OR EQUAL TO⁰SQUARE IMAGE OF OR NOT EQUAL TO¹ORIGINAL OF OR NOT EQUAL TO",
    "⁰LESS-THAN BUT NOT EQUIVALENT TO⁰GREATER-THAN BUT NOT EQUIVALENT TO",
    "⁰PRECEDES BUT NOT EQUIVALENT TO⁰SUCCEEDS BUT NOT EQUIVALENT TO⁰NOT NORMAL SUBGROUP OF",
    "⁰DOES NOT CONTAIN AS NORMAL SUBGROUP⁰NOT NORMAL SUBGROUP OF OR EQUAL TO",
    "⁰DOES NOT CONTAIN AS NORMAL SUBGROUP OR EQUAL⁰VERTICAL ELLIPSIS",
    "⁰MIDLINE HORIZONTAL ELLIPSIS⁰UP RIGHT DIAGONAL ELLIPSIS⁰DOWN RIGHT DIAGONAL ELLIPSIS",
    "⁰ELEMENT OF WITH LONG HORIZONTAL STROKE³VERTICAL BAR AT END OF HORIZONTAL STROKE",
    "⁰SMALL ELEMENT OF WITH VERTICAL BAR AT END OF HORIZONTAL STROKE",
    "⁰ELEMENT OF WITH DOT ABOVE³OVERBAR⁰SMALL ELEMENT OF WITH OVERBAR",
    "⁰ELEMENT OF WITH UNDERBAR³TWO HORIZONTAL STROKES⁰CONTAINS WITH LONG HORIZONTAL STROKE",
    "²VERTICAL BAR AT END OF HORIZONTAL STROKE",
    "⁰SMALL CONTAINS WITH VERTICAL BAR AT END OF HORIZONTAL STROKE⁰CONTAINS WITH OVERBAR",
    "⁰SMALL CONTAINS WITH OVERBAR⁰Z NOTATION BAG MEMBERSHIP⁰DIAMETER SIGN⁰ELECTRIC ARROW",
    "⁰HOUSE⁰UP ARROWHEAD⁰DOWN ARROWHEAD⁰PROJECTIVE⁰PERSPECTIVE⁰WAVY LINE⁰LEFT CEILING",
    "⁰RIGHT CEILING⁰LEFT FLOOR⁰RIGHT FLOOR⁰BOTTOM RIGHT CROP¹LEFT CROP⁰TOP RIGHT CROP",
    "¹LEFT CROP⁰REVERSED NOT SIGN⁰SQUARE LOZENGE⁰ARC⁰SEGMENT⁰SECTOR⁰TELEPHONE RECORDER",
    "⁰POSITION INDICATOR⁰VIEWDATA SQUARE⁰PLACE OF INTEREST SIGN⁰TURNED NOT SIGN⁰WATCH",
    "⁰HOURGLASS⁰TOP LEFT CORNER¹RIGHT CORNER⁰BOTTOM LEFT CORNER¹RIGHT CORNER",
    "⁰TOP HALF INTEGRAL⁰BOTTOM HALF INTEGRAL⁰FROWN⁰SMILE",
    "⁰UP ARROWHEAD BETWEEN TWO HORIZONTAL BARS⁰OPTION KEY⁰ERASE TO THE RIGHT",
    "⁰X IN A RECTANGLE BOX⁰KEYBOARD⁰LEFT-POINTING ANGLE BRACKET⁰RIGHT-POINTING ANGLE BRACKET",
    "⁰ERASE TO THE LEFT⁰BENZENE RING⁰CYLINDRICITY⁰ALL AROUND-PROFILE⁰SYMMETRY⁰TOTAL RUNOUT",
    "⁰DIMENSION ORIGIN⁰CONICAL TAPER⁰SLOPE⁰COUNTERBORE⁰COUNTERSINK",
    "⁰APL FUNCTIONAL SYMBOL I-BEAM³SQUISH QUAD³QUAD EQUAL⁴DIVIDE⁴DIAMOND⁴JOT⁴CIRCLE",
    "³CIRCLE STILE⁴JOT³SLASH BAR³BACKSLASH BAR³QUAD SLASH⁴BACKSLASH⁴LESS-THAN⁴GREATER-THAN",
    "³LEFTWARDS VANE³RIGHTWARDS VANE³QUAD LEFTWARDS ARROW⁴RIGHTWARDS ARROW³CIRCLE BACKSLASH",
    "³DOWN TACK UNDERBAR³DELTA STILE³QUAD DOWN CARET⁴DELTA³DOWN TACK JOT³UPWARDS VANE",
    "³QUAD UPWARDS ARROW³UP TACK OVERBAR³DEL STILE³QUAD UP CARET⁴DEL³UP TACK JOT",
    "³DOWNWARDS VANE³QUAD DOWNWARDS ARROW³QUOTE UNDERBAR³DELTA UNDERBAR³DIAMOND UNDERBAR",
    "³JOT UNDERBAR³CIRCLE UNDERBAR³UP SHOE JOT³QUOTE QUAD³CIRCLE STAR³QUAD COLON",
    "³UP TACK DIAERESIS³DEL DIAERESIS³STAR DIAERESIS³JOT DIAERESIS³CIRCLE DIAERESIS",
    "³DOWN SHOE STILE³LEFT SHOE STILE³TILDE DIAERESIS³GREATER-THAN DIAERESIS³COMMA BAR",
    "³DEL TILDE³ZILDE³STILE TILDE³SEMICOLON UNDERBAR³QUAD NOT EQUAL⁴QUESTION³DOWN CARET TILDE",
    "³UP CARET TILDE³IOTA³RHO³OMEGA³ALPHA UNDERBAR³EPSILON UNDERBAR³IOTA UNDERBAR",
    "³OMEGA UNDERBAR³ALPHA⁰NOT CHECK MARK⁰RIGHT ANGLE WITH DOWNWARDS ZIGZAG ARROW",
    "⁰SHOULDERED OPEN BOX⁰BELL SYMBOL⁰VERTICAL LINE WITH MIDDLE DOT⁰INSERTION SYMBOL",
    "⁰CONTINUOUS UNDERLINE SYMBOL⁰DISCONTINUOUS UNDERLINE SYMBOL⁰EMPHASIS SYMBOL",
    "⁰COMPOSITION SYMBOL⁰WHITE SQUARE WITH CENTRE VERTICAL LINE⁰ENTER SYMBOL",
    "⁰ALTERNATIVE KEY SYMBOL⁰HELM SYMBOL⁰CIRCLED HORIZONTAL BAR WITH NOTCH¹TRIANGLE DOWN",
    "⁰BROKEN CIRCLE WITH NORTHWEST ARROW⁰UNDO SYMBOL⁰MONOSTABLE SYMBOL⁰HYSTERESIS SYMBOL",
    "⁰OPEN-CIRCUIT-OUTPUT H-TYPE SYMBOL¹L-TYPE SYMBOL⁰PASSIVE-PULL-DOWN-OUTPUT SYMBOL",
    "⁰PASSIVE-PULL-UP-OUTPUT SYMBOL⁰DIRECT CURRENT SYMBOL FORM TWO⁰SOFTWARE-FUNCTION SYMBOL",
    "⁰APL FUNCTIONAL SYMBOL QUAD⁰DECIMAL SEPARATOR KEY SYMBOL⁰PREVIOUS PAGE⁰NEXT PAGE",
    "⁰PRINT SCREEN SYMBOL⁰CLEAR SCREEN SYMBOL⁰LEFT PARENTHESIS UPPER HOOK²EXTENSION",
    "²LOWER HOOK⁰RIGHT PARENTHESIS UPPER HOOK²EXTENSION²LOWER HOOK",
    "⁰LEFT SQUARE BRACKET UPPER CORNER³EXTENSION³LOWER CORNER",
    "⁰RIGHT SQUARE BRACKET UPPER CORNER³EXTENSION³LOWER CORNER⁰LEFT CURLY BRACKET UPPER HOOK",
    "³MIDDLE PIECE³LOWER HOOK⁰CURLY BRACKET EXTENSION⁰RIGHT CURLY BRACKET UPPER HOOK",
    "³MIDDLE PIECE³LOWER HOOK⁰INTEGRAL EXTENSION⁰HORIZONTAL LINE EXTENSION",
    "⁰UPPER LEFT OR LOWER RIGHT CURLY BRACKET SECTION",
    "¹RIGHT OR LOWER LEFT CURLY BRACKET SECTION⁰SUMMATION TOP¹BOTTOM⁰TOP SQUARE BRACKET",
    "⁰BOTTOM SQUARE BRACKET³OVER TOP SQUARE BRACKET⁰RADICAL SYMBOL BOTTOM",
    "⁰LEFT VERTICAL BOX LINE⁰RIGHT VERTICAL BOX LINE⁰HORIZONTAL SCAN LINE-1²LINE-3²LINE-7",
    "²LINE-9⁰DENTISTRY SYMBOL LIGHT VERTICAL AND TOP RIGHT⁵BOTTOM RIGHT⁴WITH CIRCLE",
    "³DOWN AND HORIZONTAL WITH CIRCLE³UP AND HORIZONTAL WITH CIRCLE³VERTICAL WITH TRIANGLE",
    "³DOWN AND HORIZONTAL WITH TRIANGLE³UP AND HORIZONTAL WITH TRIANGLE³VERTICAL AND WAVE",
    "³DOWN AND HORIZONTAL WITH WAVE³UP AND HORIZONTAL WITH WAVE³DOWN AND HORIZONTAL",
    "³UP AND HORIZONTAL³VERTICAL AND TOP LEFT⁵BOTTOM LEFT⁰SQUARE FOOT⁰RETURN SYMBOL",
    "⁰EJECT SYMBOL⁰VERTICAL LINE EXTENSION⁰METRICAL BREVE¹LONG OVER SHORT¹SHORT OVER LONG",
    "¹LONG OVER TWO SHORTS¹TWO SHORTS OVER LONG³JOINED¹TRISEME¹TETRASEME¹PENTASEME",
    "⁰EARTH GROUND⁰FUSE⁰TOP PARENTHESIS⁰BOTTOM PARENTHESIS⁰TOP CURLY BRACKET",
    "⁰BOTTOM CURLY BRACKET⁰TOP TORTOISE SHELL BRACKET⁰BOTTOM TORTOISE SHELL BRACKET",
    "⁰WHITE TRAPEZIUM⁰BENZENE RING WITH CIRCLE⁰STRAIGHTNESS⁰FLATNESS⁰AC CURRENT",
    "⁰ELECTRICAL INTERSECTION⁰DECIMAL EXPONENT SYMBOL⁰BLACK RIGHT-POINTING DOUBLE TRIANGLE",
    "¹LEFT-POINTING DOUBLE TRIANGLE¹UP-POINTING DOUBLE TRIANGLE¹DOWN-POINTING DOUBLE TRIANGLE",
    "¹RIGHT-POINTING DOUBLE TRIANGLE WITH VERTICAL BAR",
    "¹LEFT-POINTING DOUBLE TRIANGLE WITH VERTICAL BAR",
    "¹RIGHT-POINTING TRIANGLE WITH DOUBLE VERTICAL BAR⁰ALARM CLOCK⁰STOPWATCH⁰TIMER CLOCK",
    "⁰HOURGLASS WITH FLOWING SAND⁰BLACK MEDIUM LEFT-POINTING TRIANGLE²RIGHT-POINTING TRIANGLE",
    "²UP-POINTING TRIANGLE²DOWN-POINTING TRIANGLE⁰DOUBLE VERTICAL BAR⁰BLACK SQUARE FOR STOP",
    "¹CIRCLE FOR RECORD⁰POWER SYMBOL¹ON-OFF SYMBOL¹ON SYMBOL¹SLEEP SYMBOL⁰OBSERVER EYE SYMBOL",
    "⁰SYMBOL FOR NULL²START OF HEADING⁴TEXT²END OF TEXT⁴TRANSMISSION²ENQUIRY²ACKNOWLEDGE²BELL",
    "²BACKSPACE²HORIZONTAL TABULATION²LINE FEED²VERTICAL TABULATION²FORM FEED²CARRIAGE RETURN",
    "²SHIFT OUT³IN²DATA LINK ESCAPE²DEVICE CONTROL ONE⁴TWO⁴THREE⁴FOUR²NEGATIVE ACKNOWLEDGE",
    "²SYNCHRONOUS IDLE²END OF TRANSMISSION BLOCK²CANCEL²END OF MEDIUM²SUBSTITUTE²ESCAPE",
    "²FILE SEPARATOR²GROUP SEPARATOR²RECORD SEPARATOR²UNIT SEPARATOR²SPACE²DELETE",
    "⁰BLANK SYMBOL⁰OPEN BOX⁰SYMBOL FOR NEWLINE²DELETE FORM TWO²SUBSTITUTE FORM TWO"]⟩,
  ⟨0x2440, [
    "⁰OCR HOOK¹CHAIR¹FORK¹INVERTED FORK¹BELT BUCKLE¹BOW TIE¹BRANCH BANK IDENTIFICATION",
    "¹AMOUNT OF CHECK¹DASH¹CUSTOMER ACCOUNT NUMBER¹DOUBLE BACKSLASH"]⟩,
  ⟨0x2460, [
    "⁰CIRCLED DIGIT ONE²TWO²THREE²FOUR²FIVE²SIX²SEVEN²EIGHT²NINE¹NUMBER TEN²ELEVEN²TWELVE",
    "²THIRTEEN²FOURTEEN²FIFTEEN²SIXTEEN²SEVENTEEN²EIGHTEEN²NINETEEN²TWENTY",
    "⁰PARENTHESIZED DIGIT ONE²TWO²THREE²FOUR²FIVE²SIX²SEVEN²EIGHT²NINE¹NUMBER TEN²ELEVEN",
    "²TWELVE²THIRTEEN²FOURTEEN²FIFTEEN²SIXTEEN²SEVENTEEN²EIGHTEEN²NINETEEN²TWENTY",
    "⁰DIGIT ONE FULL STOP¹TWO FULL STOP¹THREE FULL STOP¹FOUR FULL STOP¹FIVE FULL STOP",
    "¹SIX FULL STOP¹SEVEN FULL STOP¹EIGHT FULL STOP¹NINE FULL STOP⁰NUMBER TEN FULL STOP",
    "¹ELEVEN FULL STOP¹TWELVE FULL STOP¹THIRTEEN FULL STOP¹FOURTEEN FULL STOP",
    "¹FIFTEEN FULL STOP¹SIXTEEN FULL STOP¹SEVENTEEN FULL STOP¹EIGHTEEN FULL STOP",
    "¹NINETEEN FULL STOP¹TWENTY FULL STOP⁰PARENTHESIZED LATIN SMALL LETTER A⁴B⁴C⁴D⁴E⁴F⁴G⁴H⁴I",
    "⁴J⁴K⁴L⁴M⁴N⁴O⁴P⁴Q⁴R⁴S⁴T⁴U⁴V⁴W⁴X⁴Y⁴Z⁰CIRCLED LATIN CAPITAL LETTER A⁴B⁴C⁴D⁴E⁴F⁴G⁴H⁴I⁴J⁴K⁴L",
    "⁴M⁴N⁴O⁴P⁴Q⁴R⁴S⁴T⁴U⁴V⁴W⁴X⁴Y⁴Z²SMALL LETTER A⁴B⁴C⁴D⁴E⁴F⁴G⁴H⁴I⁴J⁴K⁴L⁴M⁴N⁴O⁴P⁴Q⁴R⁴S⁴T⁴U⁴V⁴W",
    "⁴X⁴Y⁴Z¹DIGIT ZERO⁰NEGATIVE CIRCLED NUMBER ELEVEN³TWELVE³THIRTEEN³FOURTEEN³FIFTEEN",
    "³SIXTEEN³SEVENTEEN³EIGHTEEN³NINETEEN³TWENTY⁰DOUBLE CIRCLED DIGIT ONE³TWO³THREE³FOUR³FIVE",
    "³SIX³SEVEN³EIGHT³NINE²NUMBER TEN⁰NEGATIVE CIRCLED DIGIT ZERO",
    "⁰BOX DRAWINGS LIGHT HORIZONTAL²HEAVY HORIZONTAL²LIGHT VERTICAL²HEAVY VERTICAL",
    "²LIGHT TRIPLE DASH HORIZONTAL²HEAVY TRIPLE DASH HORIZONTAL²LIGHT TRIPLE DASH VERTICAL",
    "²HEAVY TRIPLE DASH VERTICAL²LIGHT QUADRUPLE DASH HORIZONTAL",
    "²HEAVY QUADRUPLE DASH HORIZONTAL²LIGHT QUADRUPLE DASH VERTICAL",
    "²HEAVY QUADRUPLE DASH VERTICAL²LIGHT DOWN AND RIGHT²DOWN LIGHT AND RIGHT HEAVY",
    "³HEAVY AND RIGHT LIGHT²HEAVY DOWN AND RIGHT²LIGHT DOWN AND LEFT",
    "²DOWN LIGHT AND LEFT HEAVY³HEAVY AND LEFT LIGHT²HEAVY DOWN AND LEFT²LIGHT UP AND RIGHT",
    "²UP LIGHT AND RIGHT HEAVY³HEAVY AND RIGHT LIGHT²HEAVY UP AND RIGHT²LIGHT UP AND LEFT",
    "²UP LIGHT AND LEFT HEAVY³HEAVY AND LEFT LIGHT²HEAVY UP AND LEFT²LIGHT VERTICAL AND RIGHT",
    "²VERTICAL LIGHT AND RIGHT HEAVY²UP HEAVY AND RIGHT DOWN LIGHT",
    "²DOWN HEAVY AND RIGHT UP LIGHT²VERTICAL HEAVY AND RIGHT LIGHT",
    "²DOWN LIGHT AND RIGHT UP HEAVY²UP LIGHT AND RIGHT DOWN HEAVY²HEAVY VERTICAL AND RIGHT",
    "²LIGHT VERTICAL AND LEFT²VERTICAL LIGHT AND LEFT HEAVY²UP HEAVY AND LEFT DOWN LIGHT",
    "²DOWN HEAVY AND LEFT UP LIGHT²VERTICAL HEAVY AND LEFT LIGHT²DOWN LIGHT AND LEFT UP HEAVY",
    "²UP LIGHT AND LEFT DOWN HEAVY²HEAVY VERTICAL AND LEFT²LIGHT DOWN AND HORIZONTAL",
    "²LEFT HEAVY AND RIGHT DOWN LIGHT²RIGHT HEAVY AND LEFT DOWN LIGHT",
    "²DOWN LIGHT AND HORIZONTAL HEAVY³HEAVY AND HORIZONTAL LIGHT",
    "²RIGHT LIGHT AND LEFT DOWN HEAVY²LEFT LIGHT AND RIGHT DOWN HEAVY",
    "²HEAVY DOWN AND HORIZONTAL²LIGHT UP AND HORIZONTAL²LEFT HEAVY AND RIGHT UP LIGHT",
    "²RIGHT HEAVY AND LEFT UP LIGHT²UP LIGHT AND HORIZONTAL HEAVY³HEAVY AND HORIZONTAL LIGHT",
    "²RIGHT LIGHT AND LEFT UP HEAVY²LEFT LIGHT AND RIGHT UP HEAVY²HEAVY UP AND HORIZONTAL",
    "²LIGHT VERTICAL AND HORIZONTAL²LEFT HEAVY AND RIGHT VERTICAL LIGHT",
    "²RIGHT HEAVY AND LEFT VERTICAL LIGHT²VERTICAL LIGHT AND HORIZONTAL HEAVY",
    "²UP HEAVY AND DOWN HORIZONTAL LIGHT²DOWN HEAVY AND UP HORIZONTAL LIGHT",
    "²VERTICAL HEAVY AND HORIZONTAL LIGHT²LEFT UP HEAVY AND RIGHT DOWN LIGHT",
    "²RIGHT UP HEAVY AND LEFT DOWN LIGHT²LEFT DOWN HEAVY AND RIGHT UP LIGHT",
    "²RIGHT DOWN HEAVY AND LEFT UP LIGHT²DOWN LIGHT AND UP HORIZONTAL HEAVY",
    "²UP LIGHT AND DOWN HORIZONTAL HEAVY²RIGHT LIGHT AND LEFT VERTICAL HEAVY",
    "²LEFT LIGHT AND RIGHT VERTICAL HEAVY²HEAVY VERTICAL AND HORIZONTAL",
    "²LIGHT DOUBLE DASH HORIZONTAL²HEAVY DOUBLE DASH HORIZONTAL²LIGHT DOUBLE DASH VERTICAL",
    "²HEAVY DOUBLE DASH VERTICAL²DOUBLE HORIZONTAL³VERTICAL²DOWN SINGLE AND RIGHT DOUBLE",
    "³DOUBLE AND RIGHT SINGLE²DOUBLE DOWN AND RIGHT²DOWN SINGLE AND LEFT DOUBLE",
    "³DOUBLE AND LEFT SINGLE²DOUBLE DOWN AND LEFT²UP SINGLE AND RIGHT DOUBLE",
    "³DOUBLE AND RIGHT SINGLE²DOUBLE UP AND RIGHT²UP SINGLE AND LEFT DOUBLE",
    "³DOUBLE AND LEFT SINGLE²DOUBLE UP AND LEFT²VERTICAL SINGLE AND RIGHT DOUBLE",
    "³DOUBLE AND RIGHT SINGLE²DOUBLE VERTICAL AND RIGHT²VERTICAL SINGLE AND LEFT DOUBLE",
    "³DOUBLE AND LEFT SINGLE²DOUBLE VERTICAL AND LEFT²DOWN SINGLE AND HORIZONTAL DOUBLE",
    "³DOUBLE AND HORIZONTAL SINGLE²DOUBLE DOWN AND HORIZONTAL²UP SINGLE AND HORIZONTAL DOUBLE",
    "³DOUBLE AND HORIZONTAL SINGLE²DOUBLE UP AND HORIZONTAL",
    "²VERTICAL SINGLE AND HORIZONTAL DOUBLE³DOUBLE AND HORIZONTAL SINGLE",
    "²DOUBLE VERTICAL AND HORIZONTAL²LIGHT ARC DOWN AND RIGHT⁶LEFT⁴UP AND LEFT⁶RIGHT",
    "³DIAGONAL UPPER RIGHT TO LOWER LEFT⁵LEFT TO LOWER RIGHT⁴CROSS³LEFT³UP³RIGHT³DOWN",
    "²HEAVY LEFT³UP³RIGHT³DOWN²LIGHT LEFT AND HEAVY RIGHT³UP AND HEAVY DOWN",
    "²HEAVY LEFT AND LIGHT RIGHT³UP AND LIGHT DOWN⁰UPPER HALF BLOCK⁰LOWER ONE EIGHTH BLOCK",
    "²QUARTER BLOCK¹THREE EIGHTHS BLOCK¹HALF BLOCK¹FIVE EIGHTHS BLOCK¹THREE QUARTERS BLOCK",
    "¹SEVEN EIGHTHS BLOCK⁰FULL BLOCK⁰LEFT SEVEN EIGHTHS BLOCK¹THREE QUARTERS BLOCK",
    "¹FIVE EIGHTHS BLOCK¹HALF BLOCK¹THREE EIGHTHS BLOCK¹ONE QUARTER BLOCK²EIGHTH BLOCK",
    "⁰RIGHT HALF BLOCK⁰LIGHT SHADE⁰MEDIUM SHADE⁰DARK SHADE⁰UPPER ONE EIGHTH BLOCK",
    "⁰RIGHT ONE EIGHTH BLOCK⁰QUADRANT LOWER LEFT²RIGHT¹UPPER LEFT",
    "³AND LOWER LEFT AND LOWER RIGHT⁵RIGHT⁴UPPER RIGHT AND LOWER LEFT⁸RIGHT²RIGHT",
    "³AND LOWER LEFT⁶AND LOWER RIGHT⁰BLACK SQUARE⁰WHITE SQUARE²WITH ROUNDED CORNERS",
    "²CONTAINING BLACK SMALL SQUARE⁰SQUARE WITH HORIZONTAL FILL²VERTICAL FILL",
    "²ORTHOGONAL CROSSHATCH FILL²UPPER LEFT TO LOWER RIGHT FILL³RIGHT TO LOWER LEFT FILL",
    "²DIAGONAL CROSSHATCH FILL⁰BLACK SMALL SQUARE⁰WHITE SMALL SQUARE⁰BLACK RECTANGLE",
    "⁰WHITE RECTANGLE⁰BLACK VERTICAL RECTANGLE⁰WHITE VERTICAL RECTANGLE⁰BLACK PARALLELOGRAM",
    "⁰WHITE PARALLELOGRAM⁰BLACK UP-POINTING TRIANGLE⁰WHITE UP-POINTING TRIANGLE",
    "⁰BLACK UP-POINTING SMALL TRIANGLE⁰WHITE UP-POINTING SMALL TRIANGLE",
    "⁰BLACK RIGHT-POINTING TRIANGLE⁰WHITE RIGHT-POINTING TRIANGLE",
    "⁰BLACK RIGHT-POINTING SMALL TRIANGLE⁰WHITE RIGHT-POINTING SMALL TRIANGLE",
    "⁰BLACK RIGHT-POINTING POINTER⁰WHITE RIGHT-POINTING POINTER⁰BLACK DOWN-POINTING TRIANGLE",
    "⁰WHITE DOWN-POINTING TRIANGLE⁰BLACK DOWN-POINTING SMALL TRIANGLE",
    "⁰WHITE DOWN-POINTING SMALL TRIANGLE⁰BLACK LEFT-POINTING TRIANGLE",
    "⁰WHITE LEFT-POINTING TRIANGLE⁰BLACK LEFT-POINTING SMALL TRIANGLE",
    "⁰WHITE LEFT-POINTING SMALL TRIANGLE⁰BLACK LEFT-POINTING POINTER",
    "⁰WHITE LEFT-POINTING POINTER⁰BLACK DIAMOND⁰WHITE DIAMOND²CONTAINING BLACK SMALL DIAMOND",
    "⁰FISHEYE⁰LOZENGE⁰WHITE CIRCLE⁰DOTTED CIRCLE⁰CIRCLE WITH VERTICAL FILL⁰BULLSEYE",
    "⁰BLACK CIRCLE⁰CIRCLE WITH LEFT HALF BLACK²RIGHT HALF BLACK²LOWER HALF BLACK",
    "²UPPER HALF BLACK³RIGHT QUADRANT BLACK²ALL BUT UPPER LEFT QUADRANT BLACK",
    "⁰LEFT HALF BLACK CIRCLE⁰RIGHT HALF BLACK CIRCLE⁰INVERSE BULLET¹WHITE CIRCLE",
    "⁰UPPER HALF INVERSE WHITE CIRCLE⁰LOWER HALF INVERSE WHITE CIRCLE",
    "⁰UPPER LEFT QUADRANT CIRCULAR ARC¹RIGHT QUADRANT CIRCULAR ARC",
    "⁰LOWER RIGHT QUADRANT CIRCULAR ARC¹LEFT QUADRANT CIRCULAR ARC⁰UPPER HALF CIRCLE",
    "⁰LOWER HALF CIRCLE⁰BLACK LOWER RIGHT TRIANGLE²LEFT TRIANGLE¹UPPER LEFT TRIANGLE",
    "²RIGHT TRIANGLE⁰WHITE BULLET⁰SQUARE WITH LEFT HALF BLACK²RIGHT HALF BLACK",
    "²UPPER LEFT DIAGONAL HALF BLACK²LOWER RIGHT DIAGONAL HALF BLACK",
    "⁰WHITE SQUARE WITH VERTICAL BISECTING LINE¹UP-POINTING TRIANGLE WITH DOT",
    "⁰UP-POINTING TRIANGLE WITH LEFT HALF BLACK³RIGHT HALF BLACK⁰LARGE CIRCLE",
    "⁰WHITE SQUARE WITH UPPER LEFT QUADRANT³LOWER LEFT QUADRANT⁴RIGHT QUADRANT",
    "³UPPER RIGHT QUADRANT¹CIRCLE WITH UPPER LEFT QUADRANT³LOWER LEFT QUADRANT⁴RIGHT QUADRANT",
    "³UPPER RIGHT QUADRANT⁰UPPER LEFT TRIANGLE¹RIGHT TRIANGLE⁰LOWER LEFT TRIANGLE",
    "⁰WHITE MEDIUM SQUARE⁰BLACK MEDIUM SQUARE⁰WHITE MEDIUM SMALL SQUARE",
    "⁰BLACK MEDIUM SMALL SQUARE⁰LOWER RIGHT TRIANGLE⁰BLACK SUN WITH RAYS⁰CLOUD⁰UMBRELLA",
    "⁰SNOWMAN⁰COMET⁰BLACK STAR⁰WHITE STAR⁰LIGHTNING⁰THUNDERSTORM⁰SUN⁰ASCENDING NODE",
    "⁰DESCENDING NODE⁰CONJUNCTION⁰OPPOSITION⁰BLACK TELEPHONE⁰WHITE TELEPHONE⁰BALLOT BOX",
    "²WITH CHECK³X⁰SALTIRE⁰UMBRELLA WITH RAIN DROPS⁰HOT BEVERAGE⁰WHITE SHOGI PIECE",
    "⁰BLACK SHOGI PIECE⁰SHAMROCK⁰REVERSED ROTATED FLORAL HEART BULLET",
    "⁰BLACK LEFT POINTING INDEX¹RIGHT POINTING INDEX⁰WHITE LEFT POINTING INDEX",
    "¹UP POINTING INDEX¹RIGHT POINTING INDEX¹DOWN POINTING INDEX⁰SKULL AND CROSSBONES",
    "⁰CAUTION SIGN⁰RADIOACTIVE SIGN⁰BIOHAZARD SIGN⁰CADUCEUS⁰ANKH⁰ORTHODOX CROSS⁰CHI RHO",
    "⁰CROSS OF LORRAINE²JERUSALEM⁰STAR AND CRESCENT⁰FARSI SYMBOL⁰ADI SHAKTI⁰HAMMER AND SICKLE",
    "⁰PEACE SYMBOL⁰YIN YANG⁰TRIGRAM FOR HEAVEN²LAKE²FIRE²THUNDER²WIND²WATER²MOUNTAIN²EARTH",
    "⁰WHEEL OF DHARMA⁰WHITE FROWNING FACE¹SMILING FACE⁰BLACK SMILING FACE⁰WHITE SUN WITH RAYS",
    "⁰FIRST QUARTER MOON⁰LAST QUARTER MOON⁰MERCURY⁰FEMALE SIGN⁰EARTH⁰MALE SIGN⁰JUPITER⁰SATURN",
    "⁰URANUS⁰NEPTUNE⁰PLUTO⁰ARIES⁰TAURUS⁰GEMINI⁰CANCER⁰LEO⁰VIRGO⁰LIBRA⁰SCORPIUS⁰SAGITTARIUS",
    "⁰CAPRICORN⁰AQUARIUS⁰PISCES⁰WHITE CHESS KING²QUEEN²ROOK²BISHOP²KNIGHT²PAWN",
    "⁰BLACK CHESS KING²QUEEN²ROOK²BISHOP²KNIGHT²PAWN¹SPADE SUIT⁰WHITE HEART SUIT¹DIAMOND SUIT",
    "⁰BLACK CLUB SUIT⁰WHITE SPADE SUIT⁰BLACK HEART SUIT¹DIAMOND SUIT⁰WHITE CLUB SUIT",
    "⁰HOT SPRINGS⁰QUARTER NOTE⁰EIGHTH NOTE⁰BEAMED EIGHTH NOTES¹SIXTEENTH NOTES",
    "⁰MUSIC FLAT SIGN¹NATURAL SIGN¹SHARP SIGN⁰WEST SYRIAC CROSS⁰EAST SYRIAC CROSS",
    "⁰UNIVERSAL RECYCLING SYMBOL⁰RECYCLING SYMBOL FOR TYPE-1 PLASTICS³TYPE-2 PLASTICS",
    "³TYPE-3 PLASTICS³TYPE-4 PLASTICS³TYPE-5 PLASTICS³TYPE-6 PLASTICS³TYPE-7 PLASTICS",
    "³GENERIC MATERIALS⁰BLACK UNIVERSAL RECYCLING SYMBOL⁰RECYCLED PAPER SYMBOL",
    "⁰PARTIALLY-RECYCLED PAPER SYMBOL⁰PERMANENT PAPER SIGN⁰WHEELCHAIR SYMBOL⁰DIE FACE-1",
    "¹FACE-2¹FACE-3¹FACE-4¹FACE-5¹FACE-6⁰WHITE CIRCLE WITH DOT RIGHT³TWO DOTS",
    "⁰BLACK CIRCLE WITH WHITE DOT RIGHT³TWO WHITE DOTS⁰MONOGRAM FOR YANG²YIN",
    "⁰DIGRAM FOR GREATER YANG²LESSER YIN³YANG²GREATER YIN⁰WHITE FLAG⁰BLACK FLAG",
    "⁰HAMMER AND PICK⁰ANCHOR⁰CROSSED SWORDS⁰STAFF OF AESCULAPIUS⁰SCALES⁰ALEMBIC⁰FLOWER⁰GEAR",
    "⁰STAFF OF HERMES⁰ATOM SYMBOL⁰FLEUR-DE-LIS⁰OUTLINED WHITE STAR",
    "⁰THREE LINES CONVERGING RIGHT³LEFT⁰WARNING SIGN⁰HIGH VOLTAGE SIGN⁰DOUBLED FEMALE SIGN",
    "¹MALE SIGN⁰INTERLOCKED FEMALE AND MALE SIGN⁰MALE AND FEMALE SIGN¹WITH STROKE SIGN",
    "³AND MALE AND FEMALE SIGN⁰VERTICAL MALE WITH STROKE SIGN",
    "⁰HORIZONTAL MALE WITH STROKE SIGN⁰MEDIUM WHITE CIRCLE¹BLACK CIRCLE¹SMALL WHITE CIRCLE",
    "⁰MARRIAGE SYMBOL⁰DIVORCE SYMBOL⁰UNMARRIED PARTNERSHIP SYMBOL⁰COFFIN⁰FUNERAL URN⁰NEUTER",
    "⁰CERES⁰PALLAS⁰JUNO⁰VESTA⁰CHIRON⁰BLACK MOON LILITH⁰SEXTILE⁰SEMISEXTILE⁰QUINCUNX",
    "⁰SESQUIQUADRATE⁰SOCCER BALL⁰BASEBALL⁰SQUARED KEY⁰WHITE DRAUGHTS MAN²KING",
    "⁰BLACK DRAUGHTS MAN²KING⁰SNOWMAN WITHOUT SNOW⁰SUN BEHIND CLOUD⁰RAIN⁰BLACK SNOWMAN",
    "⁰THUNDER CLOUD AND RAIN⁰TURNED WHITE SHOGI PIECE¹BLACK SHOGI PIECE",
    "⁰WHITE DIAMOND IN SQUARE⁰CROSSING LANES⁰DISABLED CAR⁰OPHIUCHUS⁰PICK⁰CAR SLIDING",
    "⁰HELMET WITH WHITE CROSS⁰CIRCLED CROSSING LANES⁰CHAINS⁰NO ENTRY",
    "⁰ALTERNATE ONE-WAY LEFT WAY TRAFFIC⁰BLACK TWO-WAY LEFT WAY TRAFFIC",
    "⁰WHITE TWO-WAY LEFT WAY TRAFFIC⁰BLACK LEFT LANE MERGE⁰WHITE LEFT LANE MERGE",
    "⁰DRIVE SLOW SIGN⁰HEAVY WHITE DOWN-POINTING TRIANGLE⁰LEFT CLOSED ENTRY⁰SQUARED SALTIRE",
    "⁰FALLING DIAGONAL IN WHITE CIRCLE IN BLACK SQUARE⁰BLACK TRUCK⁰RESTRICTED LEFT ENTRY-1",
    "²ENTRY-2⁰ASTRONOMICAL SYMBOL FOR URANUS⁰HEAVY CIRCLE WITH STROKE AND TWO DOTS ABOVE",
    "⁰PENTAGRAM⁰RIGHT-HANDED INTERLACED PENTAGRAM⁰LEFT-HANDED INTERLACED PENTAGRAM",
    "⁰INVERTED PENTAGRAM⁰BLACK CROSS ON SHIELD⁰SHINTO SHRINE⁰CHURCH⁰CASTLE⁰HISTORIC SITE",
    "⁰GEAR WITHOUT HUB¹WITH HANDLES⁰MAP SYMBOL FOR LIGHTHOUSE⁰MOUNTAIN⁰UMBRELLA ON GROUND",
    "⁰FOUNTAIN⁰FLAG IN HOLE⁰FERRY⁰SAILBOAT⁰SQUARE FOUR CORNERS⁰SKIER⁰ICE SKATE",
    "⁰PERSON WITH BALL⁰TENT⁰JAPANESE BANK SYMBOL⁰HEADSTONE GRAVEYARD SYMBOL⁰FUEL PUMP",
    "⁰CUP ON BLACK SQUARE⁰WHITE FLAG WITH HORIZONTAL MIDDLE BLACK STRIPE",
    "⁰BLACK SAFETY SCISSORS⁰UPPER BLADE SCISSORS⁰BLACK SCISSORS⁰LOWER BLADE SCISSORS",
    "⁰WHITE SCISSORS¹HEAVY CHECK MARK⁰TELEPHONE LOCATION SIGN⁰TAPE DRIVE⁰AIRPLANE⁰ENVELOPE",
    "⁰RAISED FIST¹HAND⁰VICTORY HAND⁰WRITING HAND⁰LOWER RIGHT PENCIL⁰PENCIL⁰UPPER RIGHT PENCIL",
    "⁰WHITE NIB⁰BLACK NIB⁰CHECK MARK⁰HEAVY CHECK MARK⁰MULTIPLICATION X⁰HEAVY MULTIPLICATION X",
    "⁰BALLOT X⁰HEAVY BALLOT X⁰OUTLINED GREEK CROSS⁰HEAVY GREEK CROSS⁰OPEN CENTRE CROSS",
    "⁰HEAVY OPEN CENTRE CROSS⁰LATIN CROSS⁰SHADOWED WHITE LATIN CROSS⁰OUTLINED LATIN CROSS",
    "⁰MALTESE CROSS⁰STAR OF DAVID⁰FOUR TEARDROP-SPOKED ASTERISK¹BALLOON-SPOKED ASTERISK",
    "⁰HEAVY FOUR BALLOON-SPOKED ASTERISK⁰FOUR CLUB-SPOKED ASTERISK⁰BLACK FOUR POINTED STAR",
    "⁰WHITE FOUR POINTED STAR⁰SPARKLES⁰STRESS OUTLINED WHITE STAR⁰CIRCLED WHITE STAR",
    "⁰OPEN CENTRE BLACK STAR⁰BLACK CENTRE WHITE STAR⁰OUTLINED BLACK STAR",
    "⁰HEAVY OUTLINED BLACK STAR⁰PINWHEEL STAR⁰SHADOWED WHITE STAR⁰HEAVY ASTERISK",
    "⁰OPEN CENTRE ASTERISK⁰EIGHT SPOKED ASTERISK¹POINTED BLACK STAR²PINWHEEL STAR",
    "⁰SIX POINTED BLACK STAR⁰EIGHT POINTED RECTILINEAR BLACK STAR",
    "⁰HEAVY EIGHT POINTED RECTILINEAR BLACK STAR⁰TWELVE POINTED BLACK STAR",
    "⁰SIXTEEN POINTED ASTERISK⁰TEARDROP-SPOKED ASTERISK⁰OPEN CENTRE TEARDROP-SPOKED ASTERISK",
    "⁰HEAVY TEARDROP-SPOKED ASTERISK⁰SIX PETALLED BLACK AND WHITE FLORETTE⁰BLACK FLORETTE",
    "⁰WHITE FLORETTE⁰EIGHT PETALLED OUTLINED BLACK FLORETTE",
    "⁰CIRCLED OPEN CENTRE EIGHT POINTED STAR⁰HEAVY TEARDROP-SPOKED PINWHEEL ASTERISK",
    "⁰SNOWFLAKE⁰TIGHT TRIFOLIATE SNOWFLAKE⁰HEAVY CHEVRON SNOWFLAKE⁰SPARKLE⁰HEAVY SPARKLE",
    "⁰BALLOON-SPOKED ASTERISK⁰EIGHT TEARDROP-SPOKED PROPELLER ASTERISK",
    "⁰HEAVY EIGHT TEARDROP-SPOKED PROPELLER ASTERISK⁰CROSS MARK⁰SHADOWED WHITE CIRCLE",
    "⁰NEGATIVE SQUARED CROSS MARK⁰LOWER RIGHT DROP-SHADOWED WHITE SQUARE",
    "⁰UPPER RIGHT DROP-SHADOWED WHITE SQUARE⁰LOWER RIGHT SHADOWED WHITE SQUARE",
    "⁰UPPER RIGHT SHADOWED WHITE SQUARE⁰BLACK QUESTION MARK ORNAMENT",
    "⁰WHITE QUESTION MARK ORNAMENT¹EXCLAMATION MARK ORNAMENT⁰BLACK DIAMOND MINUS WHITE X",
    "⁰HEAVY EXCLAMATION MARK SYMBOL⁰LIGHT VERTICAL BAR⁰MEDIUM VERTICAL BAR⁰HEAVY VERTICAL BAR",
    "¹SINGLE TURNED COMMA QUOTATION MARK ORNAMENT²COMMA QUOTATION MARK ORNAMENT",
    "¹DOUBLE TURNED COMMA QUOTATION MARK ORNAMENT²COMMA QUOTATION MARK ORNAMENT",
    "¹LOW SINGLE COMMA QUOTATION MARK ORNAMENT²DOUBLE COMMA QUOTATION MARK ORNAMENT",
    "⁰CURVED STEM PARAGRAPH SIGN ORNAMENT⁰HEAVY EXCLAMATION MARK ORNAMENT",
    "¹HEART EXCLAMATION MARK ORNAMENT¹BLACK HEART⁰ROTATED HEAVY BLACK HEART BULLET",
    "⁰FLORAL HEART⁰ROTATED FLORAL HEART BULLET⁰MEDIUM LEFT PARENTHESIS ORNAMENT",
    "¹RIGHT PARENTHESIS ORNAMENT¹FLATTENED LEFT PARENTHESIS ORNAMENT",
    "²RIGHT PARENTHESIS ORNAMENT¹LEFT-POINTING ANGLE BRACKET ORNAMENT",
    "¹RIGHT-POINTING ANGLE BRACKET ORNAMENT⁰HEAVY LEFT-POINTING ANGLE QUOTATION MARK ORNAMENT",
    "¹RIGHT-POINTING ANGLE QUOTATION MARK ORNAMENT¹LEFT-POINTING ANGLE BRACKET ORNAMENT",
    "¹RIGHT-POINTING ANGLE BRACKET ORNAMENT⁰LIGHT LEFT TORTOISE SHELL BRACKET ORNAMENT",
    "¹RIGHT TORTOISE SHELL BRACKET ORNAMENT⁰MEDIUM LEFT CURLY BRACKET ORNAMENT",
    "¹RIGHT CURLY BRACKET ORNAMENT⁰DINGBAT NEGATIVE CIRCLED DIGIT ONE⁴TWO⁴THREE⁴FOUR⁴FIVE⁴SIX",
    "⁴SEVEN⁴EIGHT⁴NINE³NUMBER TEN¹CIRCLED SANS-SERIF DIGIT ONE⁴TWO⁴THREE⁴FOUR⁴FIVE⁴SIX⁴SEVEN",
    "⁴EIGHT⁴NINE³NUMBER TEN¹NEGATIVE CIRCLED SANS-SERIF DIGIT ONE⁵TWO⁵THREE⁵FOUR⁵FIVE⁵SIX",
    "⁵SEVEN⁵EIGHT⁵NINE⁴NUMBER TEN⁰HEAVY WIDE-HEADED RIGHTWARDS ARROW¹PLUS SIGN¹MINUS SIGN",
    "¹DIVISION SIGN¹SOUTH EAST ARROW¹RIGHTWARDS ARROW¹NORTH EAST ARROW",
    "⁰DRAFTING POINT RIGHTWARDS ARROW⁰HEAVY ROUND-TIPPED RIGHTWARDS ARROW",
    "⁰TRIANGLE-HEADED RIGHTWARDS ARROW⁰HEAVY TRIANGLE-HEADED RIGHTWARDS ARROW",
    "⁰DASHED TRIANGLE-HEADED RIGHTWARDS ARROW⁰HEAVY DASHED TRIANGLE-HEADED RIGHTWARDS ARROW",
    "⁰BLACK RIGHTWARDS ARROW⁰THREE-D TOP-LIGHTED RIGHTWARDS ARROWHEAD",
    "¹BOTTOM-LIGHTED RIGHTWARDS ARROWHEAD⁰BLACK RIGHTWARDS ARROWHEAD",
    "⁰HEAVY BLACK CURVED DOWNWARDS AND RIGHTWARDS ARROW³UPWARDS AND RIGHTWARDS ARROW",
    "⁰SQUAT BLACK RIGHTWARDS ARROW⁰HEAVY CONCAVE-POINTED BLACK RIGHTWARDS ARROW",
    "⁰RIGHT-SHADED WHITE RIGHTWARDS ARROW⁰LEFT-SHADED WHITE RIGHTWARDS ARROW",
    "⁰BACK-TILTED SHADOWED WHITE RIGHTWARDS ARROW",
    "⁰FRONT-TILTED SHADOWED WHITE RIGHTWARDS ARROW",
    "⁰HEAVY LOWER RIGHT-SHADOWED WHITE RIGHTWARDS ARROW",
    "¹UPPER RIGHT-SHADOWED WHITE RIGHTWARDS ARROW",
    "⁰NOTCHED LOWER RIGHT-SHADOWED WHITE RIGHTWARDS ARROW⁰CURLY LOOP",
    "⁰NOTCHED UPPER RIGHT-SHADOWED WHITE RIGHTWARDS ARROW",
    "⁰CIRCLED HEAVY WHITE RIGHTWARDS ARROW⁰WHITE-FEATHERED RIGHTWARDS ARROW",
    "⁰BLACK-FEATHERED SOUTH EAST ARROW¹RIGHTWARDS ARROW¹NORTH EAST ARROW",
    "⁰HEAVY BLACK-FEATHERED SOUTH EAST ARROW²RIGHTWARDS ARROW²NORTH EAST ARROW",
    "⁰TEARDROP-BARBED RIGHTWARDS ARROW⁰HEAVY TEARDROP-SHANKED RIGHTWARDS ARROW",
    "⁰WEDGE-TAILED RIGHTWARDS ARROW⁰HEAVY WEDGE-TAILED RIGHTWARDS ARROW",
    "⁰OPEN-OUTLINED RIGHTWARDS ARROW⁰DOUBLE CURLY LOOP⁰THREE DIMENSIONAL ANGLE",
    "⁰WHITE TRIANGLE CONTAINING SMALL WHITE TRIANGLE⁰PERPENDICULAR⁰OPEN SUBSET¹SUPERSET",
    "⁰LEFT S-SHAPED BAG DELIMITER⁰RIGHT S-SHAPED BAG DELIMITER⁰OR WITH DOT INSIDE",
    "⁰REVERSE SOLIDUS PRECEDING SUBSET⁰SUPERSET PRECEDING SOLIDUS",
    "⁰VERTICAL BAR WITH HORIZONTAL STROKE⁰MATHEMATICAL RISING DIAGONAL⁰LONG DIVISION",
    "⁰MATHEMATICAL FALLING DIAGONAL⁰SQUARED LOGICAL AND²OR⁰WHITE DIAMOND WITH CENTRED DOT",
    "⁰AND WITH DOT⁰ELEMENT OF OPENING UPWARDS⁰LOWER RIGHT CORNER WITH DOT",
    "⁰UPPER LEFT CORNER WITH DOT⁰LEFT OUTER JOIN⁰RIGHT OUTER JOIN⁰FULL OUTER JOIN",
    "⁰LARGE UP TACK¹DOWN TACK⁰LEFT AND RIGHT DOUBLE TURNSTILE³TACK¹MULTIMAP⁰LONG RIGHT TACK",
    "¹LEFT TACK⁰UP TACK WITH CIRCLE ABOVE⁰LOZENGE DIVIDED BY HORIZONTAL RULE",
    "⁰WHITE CONCAVE-SIDED DIAMOND³WITH LEFTWARDS TICK⁴RIGHTWARDS TICK",
    "¹SQUARE WITH LEFTWARDS TICK³RIGHTWARDS TICK⁰MATHEMATICAL LEFT WHITE SQUARE BRACKET",
    "¹RIGHT WHITE SQUARE BRACKET¹LEFT ANGLE BRACKET¹RIGHT ANGLE BRACKET",
    "¹LEFT DOUBLE ANGLE BRACKET¹RIGHT DOUBLE ANGLE BRACKET¹LEFT WHITE TORTOISE SHELL BRACKET",
    "¹RIGHT WHITE TORTOISE SHELL BRACKET¹LEFT FLATTENED PARENTHESIS",
    "¹RIGHT FLATTENED PARENTHESIS⁰UPWARDS QUADRUPLE ARROW⁰DOWNWARDS QUADRUPLE ARROW",
    "⁰ANTICLOCKWISE GAPPED CIRCLE ARROW⁰CLOCKWISE GAPPED CIRCLE ARROW",
    "⁰RIGHT ARROW WITH CIRCLED PLUS⁰LONG LEFTWARDS ARROW¹RIGHTWARDS ARROW¹LEFT RIGHT ARROW",
    "¹LEFTWARDS DOUBLE ARROW¹RIGHTWARDS DOUBLE ARROW¹LEFT RIGHT DOUBLE ARROW",
    "¹LEFTWARDS ARROW FROM BAR¹RIGHTWARDS ARROW FROM BAR¹LEFTWARDS DOUBLE ARROW FROM BAR",
    "¹RIGHTWARDS DOUBLE ARROW FROM BAR²SQUIGGLE ARROW⁰BRAILLE PATTERN BLANK"]⟩,
  ⟨0x2900, [
    "⁰RIGHTWARDS TWO-HEADED ARROW WITH VERTICAL STROKE⁴DOUBLE VERTICAL STROKE",
    "⁰LEFTWARDS DOUBLE ARROW WITH VERTICAL STROKE",
    "⁰RIGHTWARDS DOUBLE ARROW WITH VERTICAL STROKE",
    "⁰LEFT RIGHT DOUBLE ARROW WITH VERTICAL STROKE⁰RIGHTWARDS TWO-HEADED ARROW FROM BAR",
    "⁰LEFTWARDS DOUBLE ARROW FROM BAR⁰RIGHTWARDS DOUBLE ARROW FROM BAR",
    "⁰DOWNWARDS ARROW WITH HORIZONTAL STROKE⁰UPWARDS ARROW WITH HORIZONTAL STROKE",
    "¹TRIPLE ARROW⁰DOWNWARDS TRIPLE ARROW⁰LEFTWARDS DOUBLE DASH ARROW",
    "⁰RIGHTWARDS DOUBLE DASH ARROW⁰LEFTWARDS TRIPLE DASH ARROW⁰RIGHTWARDS TRIPLE DASH ARROW",
    "¹TWO-HEADED TRIPLE DASH ARROW¹ARROW WITH DOTTED STEM⁰UPWARDS ARROW TO BAR",
    "⁰DOWNWARDS ARROW TO BAR⁰RIGHTWARDS ARROW WITH TAIL WITH VERTICAL STROKE",
    "⁵DOUBLE VERTICAL STROKE¹TWO-HEADED ARROW WITH TAIL⁵WITH VERTICAL STROKE",
    "⁶DOUBLE VERTICAL STROKE⁰LEFTWARDS ARROW-TAIL⁰RIGHTWARDS ARROW-TAIL",
    "⁰LEFTWARDS DOUBLE ARROW-TAIL⁰RIGHTWARDS DOUBLE ARROW-TAIL",
    "⁰LEFTWARDS ARROW TO BLACK DIAMOND⁰RIGHTWARDS ARROW TO BLACK DIAMOND",
    "⁰LEFTWARDS ARROW FROM BAR TO BLACK DIAMOND⁰RIGHTWARDS ARROW FROM BAR TO BLACK DIAMOND",
    "⁰NORTH WEST AND SOUTH EAST ARROW¹EAST AND SOUTH WEST ARROW¹WEST ARROW WITH HOOK",
    "¹EAST ARROW WITH HOOK⁰SOUTH EAST ARROW WITH HOOK¹WEST ARROW WITH HOOK",
    "⁰NORTH WEST ARROW AND NORTH EAST ARROW¹EAST ARROW AND SOUTH EAST ARROW",
    "⁰SOUTH EAST ARROW AND SOUTH WEST ARROW¹WEST ARROW AND NORTH WEST ARROW",
    "⁰RISING DIAGONAL CROSSING FALLING DIAGONAL⁰FALLING DIAGONAL CROSSING RISING DIAGONAL",
    "⁰SOUTH EAST ARROW CROSSING NORTH EAST ARROW⁰NORTH EAST ARROW CROSSING SOUTH EAST ARROW",
    "⁰FALLING DIAGONAL CROSSING NORTH EAST ARROW⁰RISING DIAGONAL CROSSING SOUTH EAST ARROW",
    "⁰NORTH EAST ARROW CROSSING NORTH WEST ARROW¹WEST ARROW CROSSING NORTH EAST ARROW",
    "⁰WAVE ARROW POINTING DIRECTLY RIGHT⁰ARROW POINTING RIGHTWARDS THEN CURVING UPWARDS",
    "⁵DOWNWARDS²DOWNWARDS THEN CURVING LEFTWARDS⁵RIGHTWARDS⁰RIGHT-SIDE ARC CLOCKWISE ARROW",
    "⁰LEFT-SIDE ARC ANTICLOCKWISE ARROW⁰TOP ARC ANTICLOCKWISE ARROW",
    "⁰BOTTOM ARC ANTICLOCKWISE ARROW⁰TOP ARC CLOCKWISE ARROW WITH MINUS",
    "²ANTICLOCKWISE ARROW WITH PLUS⁰LOWER RIGHT SEMICIRCULAR CLOCKWISE ARROW",
    "¹LEFT SEMICIRCULAR ANTICLOCKWISE ARROW⁰ANTICLOCKWISE CLOSED CIRCLE ARROW",
    "⁰CLOCKWISE CLOSED CIRCLE ARROW⁰RIGHTWARDS ARROW ABOVE SHORT LEFTWARDS ARROW",
    "⁰LEFTWARDS ARROW ABOVE SHORT RIGHTWARDS ARROW",
    "⁰SHORT RIGHTWARDS ARROW ABOVE LEFTWARDS ARROW⁰RIGHTWARDS ARROW WITH PLUS BELOW",
    "⁰LEFTWARDS ARROW WITH PLUS BELOW⁰RIGHTWARDS ARROW THROUGH X",
    "⁰LEFT RIGHT ARROW THROUGH SMALL CIRCLE⁰UPWARDS TWO-HEADED ARROW FROM SMALL CIRCLE",
    "⁰LEFT BARB UP RIGHT BARB DOWN HARPOON²DOWN RIGHT BARB UP HARPOON",
    "⁰UP BARB RIGHT DOWN BARB LEFT HARPOON²LEFT DOWN BARB RIGHT HARPOON",
    "⁰LEFT BARB UP RIGHT BARB UP HARPOON⁰UP BARB RIGHT DOWN BARB RIGHT HARPOON",
    "⁰LEFT BARB DOWN RIGHT BARB DOWN HARPOON⁰UP BARB LEFT DOWN BARB LEFT HARPOON",
    "⁰LEFTWARDS HARPOON WITH BARB UP TO BAR⁰RIGHTWARDS HARPOON WITH BARB UP TO BAR",
    "⁰UPWARDS HARPOON WITH BARB RIGHT TO BAR⁰DOWNWARDS HARPOON WITH BARB RIGHT TO BAR",
    "⁰LEFTWARDS HARPOON WITH BARB DOWN TO BAR⁰RIGHTWARDS HARPOON WITH BARB DOWN TO BAR",
    "⁰UPWARDS HARPOON WITH BARB LEFT TO BAR⁰DOWNWARDS HARPOON WITH BARB LEFT TO BAR",
    "⁰LEFTWARDS HARPOON WITH BARB UP FROM BAR⁰RIGHTWARDS HARPOON WITH BARB UP FROM BAR",
    "⁰UPWARDS HARPOON WITH BARB RIGHT FROM BAR⁰DOWNWARDS HARPOON WITH BARB RIGHT FROM BAR",
    "⁰LEFTWARDS HARPOON WITH BARB DOWN FROM BAR⁰RIGHTWARDS HARPOON WITH BARB DOWN FROM BAR",
    "⁰UPWARDS HARPOON WITH BARB LEFT FROM BAR⁰DOWNWARDS HARPOON WITH BARB LEFT FROM BAR",
    "⁰LEFTWARDS HARPOON WITH BARB UP ABOVE LEFTWARDS HARPOON WITH BARB DOWN",
    "⁰UPWARDS HARPOON WITH BARB LEFT BESIDE UPWARDS HARPOON WITH BARB RIGHT",
    "⁰RIGHTWARDS HARPOON WITH BARB UP ABOVE RIGHTWARDS HARPOON WITH BARB DOWN",
    "⁰DOWNWARDS HARPOON WITH BARB LEFT BESIDE DOWNWARDS HARPOON WITH BARB RIGHT",
    "⁰LEFTWARDS HARPOON WITH BARB UP ABOVE RIGHTWARDS HARPOON WITH BARB UP",
    "⁴DOWN ABOVE RIGHTWARDS HARPOON WITH BARB DOWN",
    "⁰RIGHTWARDS HARPOON WITH BARB UP ABOVE LEFTWARDS HARPOON WITH BARB UP",
    "⁴DOWN ABOVE LEFTWARDS HARPOON WITH BARB DOWN",
    "⁰LEFTWARDS HARPOON WITH BARB UP ABOVE LONG DASH⁴DOWN BELOW LONG DASH",
    "⁰RIGHTWARDS HARPOON WITH BARB UP ABOVE LONG DASH⁴DOWN BELOW LONG DASH",
    "⁰UPWARDS HARPOON WITH BARB LEFT BESIDE DOWNWARDS HARPOON WITH BARB RIGHT",
    "⁰DOWNWARDS HARPOON WITH BARB LEFT BESIDE UPWARDS HARPOON WITH BARB RIGHT",
    "⁰RIGHT DOUBLE ARROW WITH ROUNDED HEAD⁰EQUALS SIGN ABOVE RIGHTWARDS ARROW",
    "⁰TILDE OPERATOR ABOVE RIGHTWARDS ARROW⁰LEFTWARDS ARROW ABOVE TILDE OPERATOR",
    "⁰RIGHTWARDS ARROW ABOVE TILDE OPERATOR³ALMOST EQUAL TO⁰LESS-THAN ABOVE LEFTWARDS ARROW",
    "⁰LEFTWARDS ARROW THROUGH LESS-THAN⁰GREATER-THAN ABOVE RIGHTWARDS ARROW",
    "⁰SUBSET ABOVE RIGHTWARDS ARROW⁰LEFTWARDS ARROW THROUGH SUBSET",
    "⁰SUPERSET ABOVE LEFTWARDS ARROW⁰LEFT FISH TAIL⁰RIGHT FISH TAIL⁰UP FISH TAIL",
    "⁰DOWN FISH TAIL⁰TRIPLE VERTICAL BAR DELIMITER⁰Z NOTATION SPOT²TYPE COLON",
    "⁰LEFT WHITE CURLY BRACKET⁰RIGHT WHITE CURLY BRACKET⁰LEFT WHITE PARENTHESIS",
    "⁰RIGHT WHITE PARENTHESIS⁰Z NOTATION LEFT IMAGE BRACKET²RIGHT IMAGE BRACKET",
    "²LEFT BINDING BRACKET²RIGHT BINDING BRACKET⁰LEFT SQUARE BRACKET WITH UNDERBAR",
    "⁰RIGHT SQUARE BRACKET WITH UNDERBAR⁰LEFT SQUARE BRACKET WITH TICK IN TOP CORNER",
    "⁰RIGHT SQUARE BRACKET WITH TICK IN BOTTOM CORNER",
    "⁰LEFT SQUARE BRACKET WITH TICK IN BOTTOM CORNER",
    "⁰RIGHT SQUARE BRACKET WITH TICK IN TOP CORNER⁰LEFT ANGLE BRACKET WITH DOT",
    "⁰RIGHT ANGLE BRACKET WITH DOT⁰LEFT ARC LESS-THAN BRACKET⁰RIGHT ARC GREATER-THAN BRACKET",
    "⁰DOUBLE LEFT ARC GREATER-THAN BRACKET¹RIGHT ARC LESS-THAN BRACKET",
    "⁰LEFT BLACK TORTOISE SHELL BRACKET⁰RIGHT BLACK TORTOISE SHELL BRACKET⁰DOTTED FENCE",
    "⁰VERTICAL ZIGZAG LINE⁰MEASURED ANGLE OPENING LEFT⁰RIGHT ANGLE VARIANT WITH SQUARE",
    "⁰MEASURED RIGHT ANGLE WITH DOT⁰ANGLE WITH S INSIDE⁰ACUTE ANGLE",
    "⁰SPHERICAL ANGLE OPENING LEFT³UP⁰TURNED ANGLE⁰REVERSED ANGLE⁰ANGLE WITH UNDERBAR",
    "⁰REVERSED ANGLE WITH UNDERBAR⁰OBLIQUE ANGLE OPENING UP³DOWN",
    "⁰MEASURED ANGLE WITH OPEN ARM ENDING IN ARROW POINTING UP AND RIGHT⁹UP AND LEFT",
    "⁹DOWN AND RIGHT⁹DOWN AND LEFT⁹RIGHT AND UP⁹LEFT AND UP⁹RIGHT AND DOWN⁹LEFT AND DOWN",
    "⁰REVERSED EMPTY SET⁰EMPTY SET WITH OVERBAR³SMALL CIRCLE ABOVE³RIGHT ARROW ABOVE",
    "³LEFT ARROW ABOVE⁰CIRCLE WITH HORIZONTAL BAR⁰CIRCLED VERTICAL BAR¹PARALLEL",
    "¹REVERSE SOLIDUS¹PERPENDICULAR",
    "⁰CIRCLE DIVIDED BY HORIZONTAL BAR AND TOP HALF DIVIDED BY VERTICAL BAR",
    "¹WITH SUPERIMPOSED X⁰CIRCLED ANTICLOCKWISE-ROTATED DIVISION SIGN⁰UP ARROW THROUGH CIRCLE",
    "⁰CIRCLED WHITE BULLET¹BULLET¹LESS-THAN¹GREATER-THAN",
    "⁰CIRCLE WITH SMALL CIRCLE TO THE RIGHT²TWO HORIZONTAL STROKES TO THE RIGHT",
    "⁰SQUARED RISING DIAGONAL SLASH¹FALLING DIAGONAL SLASH¹ASTERISK¹SMALL CIRCLE¹SQUARE",
    "⁰TWO JOINED SQUARES⁰TRIANGLE WITH DOT ABOVE²UNDERBAR⁰S IN TRIANGLE",
    "⁰TRIANGLE WITH SERIFS AT BOTTOM⁰RIGHT TRIANGLE ABOVE LEFT TRIANGLE",
    "⁰LEFT TRIANGLE BESIDE VERTICAL BAR⁰VERTICAL BAR BESIDE RIGHT TRIANGLE",
    "⁰BOWTIE WITH LEFT HALF BLACK²RIGHT HALF BLACK⁰BLACK BOWTIE⁰TIMES WITH LEFT HALF BLACK",
    "²RIGHT HALF BLACK⁰WHITE HOURGLASS⁰BLACK HOURGLASS⁰LEFT WIGGLY FENCE⁰RIGHT WIGGLY FENCE",
    "⁰LEFT DOUBLE WIGGLY FENCE⁰RIGHT DOUBLE WIGGLY FENCE⁰INCOMPLETE INFINITY",
    "⁰TIE OVER INFINITY⁰INFINITY NEGATED WITH VERTICAL BAR⁰DOUBLE-ENDED MULTIMAP",
    "⁰SQUARE WITH CONTOURED OUTLINE⁰INCREASES AS⁰SHUFFLE PRODUCT",
    "⁰EQUALS SIGN AND SLANTED PARALLEL⁵WITH TILDE ABOVE⁰IDENTICAL TO AND SLANTED PARALLEL",
    "⁰GLEICH STARK⁰THERMODYNAMIC⁰DOWN-POINTING TRIANGLE WITH LEFT HALF BLACK³RIGHT HALF BLACK",
    "⁰BLACK DIAMOND WITH DOWN ARROW¹LOZENGE⁰WHITE CIRCLE WITH DOWN ARROW",
    "⁰BLACK CIRCLE WITH DOWN ARROW⁰ERROR-BARRED WHITE SQUARE¹BLACK SQUARE¹WHITE DIAMOND",
    "¹BLACK DIAMOND¹WHITE CIRCLE¹BLACK CIRCLE⁰RULE-DELAYED⁰REVERSE SOLIDUS OPERATOR",
    "⁰SOLIDUS WITH OVERBAR⁰REVERSE SOLIDUS WITH HORIZONTAL STROKE⁰BIG SOLIDUS¹REVERSE SOLIDUS",
    "⁰DOUBLE PLUS⁰TRIPLE PLUS⁰LEFT-POINTING CURVED ANGLE BRACKET",
    "⁰RIGHT-POINTING CURVED ANGLE BRACKET⁰TINY⁰MINY⁰N-ARY CIRCLED DOT OPERATOR²PLUS OPERATOR",
    "²TIMES OPERATOR¹UNION OPERATOR WITH DOT⁴PLUS¹SQUARE INTERSECTION OPERATOR²UNION OPERATOR",
    "⁰TWO LOGICAL AND OPERATOR²OR OPERATOR⁰N-ARY TIMES OPERATOR⁰MODULO TWO SUM",
    "⁰SUMMATION WITH INTEGRAL⁰QUADRUPLE INTEGRAL OPERATOR⁰FINITE PART INTEGRAL",
    "⁰INTEGRAL WITH DOUBLE STROKE¹AVERAGE WITH SLASH⁰CIRCULATION FUNCTION",
    "⁰ANTICLOCKWISE INTEGRATION⁰LINE INTEGRATION WITH RECTANGULAR PATH AROUND POLE",
    "³SEMICIRCULAR PATH AROUND POLE²NOT INCLUDING THE POLE⁰INTEGRAL AROUND A POINT OPERATOR",
    "⁰QUATERNION INTEGRAL OPERATOR⁰INTEGRAL WITH LEFTWARDS ARROW WITH HOOK²TIMES SIGN",
    "²INTERSECTION²UNION²OVERBAR²UNDERBAR⁰JOIN⁰LARGE LEFT TRIANGLE OPERATOR",
    "⁰Z NOTATION SCHEMA COMPOSITION³PIPING³PROJECTION⁰PLUS SIGN WITH SMALL CIRCLE ABOVE",
    "³CIRCUMFLEX ACCENT ABOVE³TILDE ABOVE³DOT BELOW³TILDE BELOW³SUBSCRIPT TWO³BLACK TRIANGLE",
    "⁰MINUS SIGN WITH COMMA ABOVE³DOT BELOW³FALLING DOTS³RISING DOTS",
    "⁰PLUS SIGN IN LEFT HALF CIRCLE³RIGHT HALF CIRCLE⁰VECTOR OR CROSS PRODUCT",
    "⁰MULTIPLICATION SIGN WITH DOT ABOVE³UNDERBAR⁰SEMIDIRECT PRODUCT WITH BOTTOM CLOSED",
    "⁰SMASH PRODUCT⁰MULTIPLICATION SIGN IN LEFT HALF CIRCLE³RIGHT HALF CIRCLE",
    "⁰CIRCLED MULTIPLICATION SIGN WITH CIRCUMFLEX ACCENT⁰MULTIPLICATION SIGN IN DOUBLE CIRCLE",
    "⁰CIRCLED DIVISION SIGN⁰PLUS SIGN IN TRIANGLE⁰MINUS SIGN IN TRIANGLE",
    "⁰MULTIPLICATION SIGN IN TRIANGLE⁰INTERIOR PRODUCT⁰RIGHTHAND INTERIOR PRODUCT",
    "⁰Z NOTATION RELATIONAL COMPOSITION⁰AMALGAMATION OR COPRODUCT⁰INTERSECTION WITH DOT",
    "⁰UNION WITH MINUS SIGN²OVERBAR⁰INTERSECTION WITH OVERBAR²LOGICAL AND",
    "⁰UNION WITH LOGICAL OR¹ABOVE INTERSECTION⁰INTERSECTION ABOVE UNION",
    "⁰UNION ABOVE BAR ABOVE INTERSECTION⁰INTERSECTION ABOVE BAR ABOVE UNION",
    "⁰UNION BESIDE AND JOINED WITH UNION⁰INTERSECTION BESIDE AND JOINED WITH INTERSECTION",
    "⁰CLOSED UNION WITH SERIFS¹INTERSECTION WITH SERIFS⁰DOUBLE SQUARE INTERSECTION²UNION",
    "⁰CLOSED UNION WITH SERIFS AND SMASH PRODUCT⁰LOGICAL AND WITH DOT ABOVE¹OR WITH DOT ABOVE",
    "⁰DOUBLE LOGICAL AND²OR⁰TWO INTERSECTING LOGICAL AND³OR⁰SLOPING LARGE OR²AND",
    "⁰LOGICAL OR OVERLAPPING LOGICAL AND¹AND WITH MIDDLE STEM¹OR WITH MIDDLE STEM",
    "¹AND WITH HORIZONTAL DASH¹OR WITH HORIZONTAL DASH¹AND WITH DOUBLE OVERBAR³UNDERBAR",
    "³DOUBLE UNDERBAR⁰SMALL VEE WITH UNDERBAR⁰LOGICAL OR WITH DOUBLE OVERBAR⁴UNDERBAR",
    "⁰Z NOTATION DOMAIN ANTIRESTRICTION²RANGE ANTIRESTRICTION⁰EQUALS SIGN WITH DOT BELOW",
    "⁰IDENTICAL WITH DOT ABOVE⁰TRIPLE HORIZONTAL BAR WITH DOUBLE VERTICAL STROKE",
    "⁴TRIPLE VERTICAL STROKE⁰TILDE OPERATOR WITH DOT ABOVE³RISING DOTS⁰SIMILAR MINUS SIMILAR",
    "⁰CONGRUENT WITH DOT ABOVE⁰EQUALS WITH ASTERISK⁰ALMOST EQUAL TO WITH CIRCUMFLEX ACCENT",
    "⁰APPROXIMATELY EQUAL OR EQUAL TO⁰EQUALS SIGN ABOVE PLUS SIGN⁰PLUS SIGN ABOVE EQUALS SIGN",
    "⁰EQUALS SIGN ABOVE TILDE OPERATOR⁰DOUBLE COLON EQUAL⁰TWO CONSECUTIVE EQUALS SIGNS",
    "⁰THREE CONSECUTIVE EQUALS SIGNS⁰EQUALS SIGN WITH TWO DOTS ABOVE AND TWO DOTS BELOW",
    "⁰EQUIVALENT WITH FOUR DOTS ABOVE⁰LESS-THAN WITH CIRCLE INSIDE",
    "⁰GREATER-THAN WITH CIRCLE INSIDE⁰LESS-THAN WITH QUESTION MARK ABOVE",
    "⁰GREATER-THAN WITH QUESTION MARK ABOVE⁰LESS-THAN OR SLANTED EQUAL TO",
    "⁰GREATER-THAN OR SLANTED EQUAL TO⁰LESS-THAN OR SLANTED EQUAL TO WITH DOT INSIDE",
    "⁰GREATER-THAN OR SLANTED EQUAL TO WITH DOT INSIDE",
    "⁰LESS-THAN OR SLANTED EQUAL TO WITH DOT ABOVE",
    "⁰GREATER-THAN OR SLANTED EQUAL TO WITH DOT ABOVE",
    "⁰LESS-THAN OR SLANTED EQUAL TO WITH DOT ABOVE RIGHT",
    "⁰GREATER-THAN OR SLANTED EQUAL TO WITH DOT ABOVE LEFT⁰LESS-THAN OR APPROXIMATE",
    "⁰GREATER-THAN OR APPROXIMATE⁰LESS-THAN AND SINGLE-LINE NOT EQUAL TO",
    "⁰GREATER-THAN AND SINGLE-LINE NOT EQUAL TO⁰LESS-THAN AND NOT APPROXIMATE",
    "⁰GREATER-THAN AND NOT APPROXIMATE⁰LESS-THAN ABOVE DOUBLE-LINE EQUAL ABOVE GREATER-THAN",
    "⁰GREATER-THAN ABOVE DOUBLE-LINE EQUAL ABOVE LESS-THAN⁰LESS-THAN ABOVE SIMILAR OR EQUAL",
    "⁰GREATER-THAN ABOVE SIMILAR OR EQUAL⁰LESS-THAN ABOVE SIMILAR ABOVE GREATER-THAN",
    "⁰GREATER-THAN ABOVE SIMILAR ABOVE LESS-THAN",
    "⁰LESS-THAN ABOVE GREATER-THAN ABOVE DOUBLE-LINE EQUAL",
    "⁰GREATER-THAN ABOVE LESS-THAN ABOVE DOUBLE-LINE EQUAL",
    "⁰LESS-THAN ABOVE SLANTED EQUAL ABOVE GREATER-THAN ABOVE SLANTED EQUAL",
    "⁰GREATER-THAN ABOVE SLANTED EQUAL ABOVE LESS-THAN ABOVE SLANTED EQUAL",
    "⁰SLANTED EQUAL TO OR LESS-THAN⁴GREATER-THAN⁴LESS-THAN WITH DOT INSIDE",
    "⁴GREATER-THAN WITH DOT INSIDE⁰DOUBLE-LINE EQUAL TO OR LESS-THAN⁴GREATER-THAN",
    "¹SLANTED EQUAL TO OR LESS-THAN⁵GREATER-THAN⁰SIMILAR OR LESS-THAN²GREATER-THAN",
    "¹ABOVE LESS-THAN ABOVE EQUALS SIGN²GREATER-THAN ABOVE EQUALS SIGN",
    "⁰DOUBLE NESTED LESS-THAN²GREATER-THAN²LESS-THAN WITH UNDERBAR",
    "⁰GREATER-THAN OVERLAPPING LESS-THAN¹BESIDE LESS-THAN⁰LESS-THAN CLOSED BY CURVE",
    "⁰GREATER-THAN CLOSED BY CURVE⁰LESS-THAN CLOSED BY CURVE ABOVE SLANTED EQUAL",
    "⁰GREATER-THAN CLOSED BY CURVE ABOVE SLANTED EQUAL⁰SMALLER THAN⁰LARGER THAN",
    "⁰SMALLER THAN OR EQUAL TO⁰LARGER THAN OR EQUAL TO⁰EQUALS SIGN WITH BUMPY ABOVE",
    "⁰PRECEDES ABOVE SINGLE-LINE EQUALS SIGN⁰SUCCEEDS ABOVE SINGLE-LINE EQUALS SIGN",
    "⁰PRECEDES ABOVE SINGLE-LINE NOT EQUAL TO⁰SUCCEEDS ABOVE SINGLE-LINE NOT EQUAL TO",
    "⁰PRECEDES ABOVE EQUALS SIGN⁰SUCCEEDS ABOVE EQUALS SIGN⁰PRECEDES ABOVE NOT EQUAL TO",
    "⁰SUCCEEDS ABOVE NOT EQUAL TO⁰PRECEDES ABOVE ALMOST EQUAL TO",
    "⁰SUCCEEDS ABOVE ALMOST EQUAL TO⁰PRECEDES ABOVE NOT ALMOST EQUAL TO",
    "⁰SUCCEEDS ABOVE NOT ALMOST EQUAL TO⁰DOUBLE PRECEDES¹SUCCEEDS⁰SUBSET WITH DOT",
    "⁰SUPERSET WITH DOT⁰SUBSET WITH PLUS SIGN BELOW⁰SUPERSET WITH PLUS SIGN BELOW",
    "⁰SUBSET WITH MULTIPLICATION SIGN BELOW⁰SUPERSET WITH MULTIPLICATION SIGN BELOW",
    "⁰SUBSET OF OR EQUAL TO WITH DOT ABOVE⁰SUPERSET OF OR EQUAL TO WITH DOT ABOVE",
    "⁰SUBSET OF ABOVE EQUALS SIGN⁰SUPERSET OF ABOVE EQUALS SIGN",
    "⁰SUBSET OF ABOVE TILDE OPERATOR⁰SUPERSET OF ABOVE TILDE OPERATOR",
    "⁰SUBSET OF ABOVE ALMOST EQUAL TO⁰SUPERSET OF ABOVE ALMOST EQUAL TO",
    "⁰SUBSET OF ABOVE NOT EQUAL TO⁰SUPERSET OF ABOVE NOT EQUAL TO",
    "⁰SQUARE LEFT OPEN BOX OPERATOR¹RIGHT OPEN BOX OPERATOR⁰CLOSED SUBSET¹SUPERSET",
    "¹SUBSET OR EQUAL TO¹SUPERSET OR EQUAL TO⁰SUBSET ABOVE SUPERSET⁰SUPERSET ABOVE SUBSET",
    "⁰SUBSET ABOVE SUBSET⁰SUPERSET ABOVE SUPERSET¹BESIDE SUBSET",
    "²AND JOINED BY DASH WITH SUBSET⁰ELEMENT OF OPENING DOWNWARDS⁰PITCHFORK WITH TEE TOP",
    "⁰TRANSVERSAL INTERSECTION⁰FORKING⁰NONFORKING⁰SHORT LEFT TACK¹DOWN TACK¹UP TACK",
    "⁰PERPENDICULAR WITH S⁰VERTICAL BAR TRIPLE RIGHT TURNSTILE",
    "⁰DOUBLE VERTICAL BAR LEFT TURNSTILE⁰VERTICAL BAR DOUBLE LEFT TURNSTILE",
    "⁰DOUBLE VERTICAL BAR DOUBLE LEFT TURNSTILE⁰LONG DASH FROM LEFT MEMBER OF DOUBLE VERTICAL",
    "⁰SHORT DOWN TACK WITH OVERBAR¹UP TACK WITH UNDERBAR³ABOVE SHORT DOWN TACK",
    "⁰DOUBLE DOWN TACK¹UP TACK¹STROKE NOT SIGN⁰REVERSED DOUBLE STROKE NOT SIGN",
    "⁰DOES NOT DIVIDE WITH REVERSED NEGATION SLASH⁰VERTICAL LINE WITH CIRCLE ABOVE⁴BELOW",
    "⁰DOWN TACK WITH CIRCLE BELOW⁰PARALLEL WITH HORIZONTAL STROKE²TILDE OPERATOR",
    "⁰TRIPLE VERTICAL BAR BINARY RELATION³WITH HORIZONTAL STROKE¹COLON OPERATOR",
    "¹NESTED LESS-THAN²GREATER-THAN⁰DOUBLE-LINE SLANTED LESS-THAN OR EQUAL TO",
    "²GREATER-THAN OR EQUAL TO⁰TRIPLE SOLIDUS BINARY RELATION",
    "⁰LARGE TRIPLE VERTICAL BAR OPERATOR⁰DOUBLE SOLIDUS OPERATOR⁰WHITE VERTICAL BAR",
    "⁰N-ARY WHITE VERTICAL BAR⁰NORTH EAST WHITE ARROW¹WEST WHITE ARROW⁰SOUTH EAST WHITE ARROW",
    "¹WEST WHITE ARROW⁰LEFT RIGHT WHITE ARROW⁰LEFTWARDS BLACK ARROW⁰UPWARDS BLACK ARROW",
    "⁰DOWNWARDS BLACK ARROW⁰NORTH EAST BLACK ARROW¹WEST BLACK ARROW⁰SOUTH EAST BLACK ARROW",
    "¹WEST BLACK ARROW⁰LEFT RIGHT BLACK ARROW⁰UP DOWN BLACK ARROW",
    "⁰RIGHTWARDS ARROW WITH TIP DOWNWARDS⁴UPWARDS⁰LEFTWARDS ARROW WITH TIP DOWNWARDS⁴UPWARDS",
    "⁰SQUARE WITH TOP HALF BLACK²BOTTOM HALF BLACK²UPPER RIGHT DIAGONAL HALF BLACK",
    "²LOWER LEFT DIAGONAL HALF BLACK⁰DIAMOND WITH LEFT HALF BLACK²RIGHT HALF BLACK",
    "²TOP HALF BLACK²BOTTOM HALF BLACK⁰DOTTED SQUARE⁰BLACK LARGE SQUARE⁰WHITE LARGE SQUARE",
    "⁰BLACK VERY SMALL SQUARE⁰WHITE VERY SMALL SQUARE⁰BLACK PENTAGON⁰WHITE PENTAGON¹HEXAGON",
    "⁰BLACK HEXAGON⁰HORIZONTAL BLACK HEXAGON⁰BLACK LARGE CIRCLE¹MEDIUM DIAMOND",
    "⁰WHITE MEDIUM DIAMOND⁰BLACK MEDIUM LOZENGE⁰WHITE MEDIUM LOZENGE⁰BLACK SMALL DIAMOND",
    "²LOZENGE⁰WHITE SMALL LOZENGE⁰BLACK HORIZONTAL ELLIPSE⁰WHITE HORIZONTAL ELLIPSE",
    "⁰BLACK VERTICAL ELLIPSE⁰WHITE VERTICAL ELLIPSE⁰LEFT ARROW WITH SMALL CIRCLE",
    "⁰THREE LEFTWARDS ARROWS⁰LEFT ARROW WITH CIRCLED PLUS⁰LONG LEFTWARDS SQUIGGLE ARROW",
    "⁰LEFTWARDS TWO-HEADED ARROW WITH VERTICAL STROKE⁴DOUBLE VERTICAL STROKE³FROM BAR",
    "²TRIPLE DASH ARROW¹ARROW WITH DOTTED STEM³TAIL WITH VERTICAL STROKE",
    "⁵DOUBLE VERTICAL STROKE¹TWO-HEADED ARROW WITH TAIL⁵WITH VERTICAL STROKE",
    "⁶DOUBLE VERTICAL STROKE¹ARROW THROUGH X⁰WAVE ARROW POINTING DIRECTLY LEFT",
    "⁰EQUALS SIGN ABOVE LEFTWARDS ARROW⁰REVERSE TILDE OPERATOR ABOVE LEFTWARDS ARROW",
    "⁰LEFTWARDS ARROW ABOVE REVERSE ALMOST EQUAL TO⁰RIGHTWARDS ARROW THROUGH GREATER-THAN",
    "³SUPERSET⁰LEFTWARDS QUADRUPLE ARROW⁰RIGHTWARDS QUADRUPLE ARROW",
    "⁰REVERSE TILDE OPERATOR ABOVE RIGHTWARDS ARROW",
    "⁰RIGHTWARDS ARROW ABOVE REVERSE ALMOST EQUAL TO⁰TILDE OPERATOR ABOVE LEFTWARDS ARROW",
    "⁰LEFTWARDS ARROW ABOVE ALMOST EQUAL TO³REVERSE TILDE OPERATOR",
    "⁰RIGHTWARDS ARROW ABOVE REVERSE TILDE OPERATOR⁰DOWNWARDS TRIANGLE-HEADED ZIGZAG ARROW",
    "⁰SHORT SLANTED NORTH ARROW¹BACKSLANTED SOUTH ARROW⁰WHITE MEDIUM STAR⁰BLACK SMALL STAR",
    "⁰WHITE SMALL STAR⁰BLACK RIGHT-POINTING PENTAGON⁰WHITE RIGHT-POINTING PENTAGON",
    "⁰HEAVY LARGE CIRCLE¹OVAL WITH OVAL INSIDE¹CIRCLE WITH CIRCLE INSIDE¹CIRCLE",
    "¹CIRCLED SALTIRE⁰SLANTED NORTH ARROW WITH HOOKED HEAD",
    "⁰BACKSLANTED SOUTH ARROW WITH HOOKED TAIL⁰SLANTED NORTH ARROW WITH HORIZONTAL TAIL",
    "⁰BACKSLANTED SOUTH ARROW WITH HORIZONTAL TAIL",
    "⁰BENT ARROW POINTING DOWNWARDS THEN NORTH EAST",
    "⁰SHORT BENT ARROW POINTING DOWNWARDS THEN NORTH EAST⁰LEFTWARDS TRIANGLE-HEADED ARROW",
    "⁰UPWARDS TRIANGLE-HEADED ARROW⁰RIGHTWARDS TRIANGLE-HEADED ARROW",
    "⁰DOWNWARDS TRIANGLE-HEADED ARROW⁰LEFT RIGHT TRIANGLE-HEADED ARROW",
    "⁰UP DOWN TRIANGLE-HEADED ARROW⁰NORTH WEST TRIANGLE-HEADED ARROW",
    "¹EAST TRIANGLE-HEADED ARROW⁰SOUTH EAST TRIANGLE-HEADED ARROW¹WEST TRIANGLE-HEADED ARROW",
    "⁰LEFTWARDS TRIANGLE-HEADED DASHED ARROW⁰UPWARDS TRIANGLE-HEADED DASHED ARROW",
    "⁰RIGHTWARDS TRIANGLE-HEADED DASHED ARROW⁰DOWNWARDS TRIANGLE-HEADED DASHED ARROW",
    "⁰CLOCKWISE TRIANGLE-HEADED OPEN CIRCLE ARROW",
    "⁰ANTICLOCKWISE TRIANGLE-HEADED OPEN CIRCLE ARROW⁰LEFTWARDS TRIANGLE-HEADED ARROW TO BAR",
    "⁰UPWARDS TRIANGLE-HEADED ARROW TO BAR⁰RIGHTWARDS TRIANGLE-HEADED ARROW TO BAR",
    "⁰DOWNWARDS TRIANGLE-HEADED ARROW TO BAR"]⟩,
  ⟨0x2b76, [
    "⁰NORTH WEST TRIANGLE-HEADED ARROW TO BAR¹EAST TRIANGLE-HEADED ARROW TO BAR",
    "⁰SOUTH EAST TRIANGLE-HEADED ARROW TO BAR¹WEST TRIANGLE-HEADED ARROW TO BAR",
    "⁰LEFTWARDS TRIANGLE-HEADED ARROW WITH DOUBLE HORIZONTAL STROKE",
    "⁰UPWARDS TRIANGLE-HEADED ARROW WITH DOUBLE HORIZONTAL STROKE",
    "⁰RIGHTWARDS TRIANGLE-HEADED ARROW WITH DOUBLE HORIZONTAL STROKE",
    "⁰DOWNWARDS TRIANGLE-HEADED ARROW WITH DOUBLE HORIZONTAL STROKE⁰HORIZONTAL TAB KEY",
    "⁰VERTICAL TAB KEY⁰LEFTWARDS TRIANGLE-HEADED ARROW OVER RIGHTWARDS TRIANGLE-HEADED ARROW",
    "⁰UPWARDS TRIANGLE-HEADED ARROW LEFTWARDS OF DOWNWARDS TRIANGLE-HEADED ARROW",
    "⁰RIGHTWARDS TRIANGLE-HEADED ARROW OVER LEFTWARDS TRIANGLE-HEADED ARROW",
    "⁰DOWNWARDS TRIANGLE-HEADED ARROW LEFTWARDS OF UPWARDS TRIANGLE-HEADED ARROW",
    "⁰LEFTWARDS TRIANGLE-HEADED PAIRED ARROWS⁰UPWARDS TRIANGLE-HEADED PAIRED ARROWS",
    "⁰RIGHTWARDS TRIANGLE-HEADED PAIRED ARROWS⁰DOWNWARDS TRIANGLE-HEADED PAIRED ARROWS",
    "⁰LEFTWARDS BLACK CIRCLED WHITE ARROW⁰UPWARDS BLACK CIRCLED WHITE ARROW",
    "⁰RIGHTWARDS BLACK CIRCLED WHITE ARROW⁰DOWNWARDS BLACK CIRCLED WHITE ARROW",
    "⁰ANTICLOCKWISE TRIANGLE-HEADED RIGHT U-SHAPED ARROW²BOTTOM U-SHAPED ARROW",
    "²LEFT U-SHAPED ARROW²TOP U-SHAPED ARROW⁰RETURN LEFT¹RIGHT⁰NEWLINE LEFT¹RIGHT",
    "⁰FOUR CORNER ARROWS CIRCLING ANTICLOCKWISE⁰RIGHTWARDS BLACK ARROW"]⟩,
  ⟨0x2b97, [
    "⁰SYMBOL FOR TYPE A ELECTRONICS⁰THREE-D TOP-LIGHTED LEFTWARDS EQUILATERAL ARROWHEAD",
    "¹RIGHT-LIGHTED UPWARDS EQUILATERAL ARROWHEAD",
    "¹TOP-LIGHTED RIGHTWARDS EQUILATERAL ARROWHEAD",
    "¹LEFT-LIGHTED DOWNWARDS EQUILATERAL ARROWHEAD⁰BLACK LEFTWARDS EQUILATERAL ARROWHEAD",
    "¹UPWARDS EQUILATERAL ARROWHEAD¹RIGHTWARDS EQUILATERAL ARROWHEAD",
    "¹DOWNWARDS EQUILATERAL ARROWHEAD⁰DOWNWARDS TRIANGLE-HEADED ARROW WITH LONG TIP LEFTWARDS",
    "⁶RIGHTWARDS⁰UPWARDS TRIANGLE-HEADED ARROW WITH LONG TIP LEFTWARDS⁶RIGHTWARDS",
    "⁰LEFTWARDS TRIANGLE-HEADED ARROW WITH LONG TIP UPWARDS",
    "⁰RIGHTWARDS TRIANGLE-HEADED ARROW WITH LONG TIP UPWARDS",
    "⁰LEFTWARDS TRIANGLE-HEADED ARROW WITH LONG TIP DOWNWARDS",
    "⁰RIGHTWARDS TRIANGLE-HEADED ARROW WITH LONG TIP DOWNWARDS",
    "⁰BLACK CURVED DOWNWARDS AND LEFTWARDS ARROW⁴RIGHTWARDS ARROW²UPWARDS AND LEFTWARDS ARROW",
    "⁴RIGHTWARDS ARROW²LEFTWARDS AND UPWARDS ARROW²RIGHTWARDS AND UPWARDS ARROW",
    "²LEFTWARDS AND DOWNWARDS ARROW²RIGHTWARDS AND DOWNWARDS ARROW⁰RIBBON ARROW DOWN LEFT",
    "³RIGHT²UP LEFT³RIGHT²LEFT UP²RIGHT UP²LEFT DOWN²RIGHT DOWN",
    "⁰UPWARDS WHITE ARROW FROM BAR WITH HORIZONTAL BAR⁰UP ARROWHEAD IN A RECTANGLE BOX",
    "⁰OVERLAPPING WHITE SQUARES²AND BLACK SQUARES¹BLACK SQUARES⁰BALLOT BOX WITH LIGHT X",
    "⁰CIRCLED X¹BOLD X⁰BLACK SQUARE CENTRED¹DIAMOND CENTRED⁰TURNED BLACK PENTAGON",
    "⁰HORIZONTAL BLACK OCTAGON⁰BLACK OCTAGON¹MEDIUM UP-POINTING TRIANGLE CENTRED",
    "²DOWN-POINTING TRIANGLE CENTRED²LEFT-POINTING TRIANGLE CENTRED",
    "²RIGHT-POINTING TRIANGLE CENTRED⁰NEPTUNE FORM TWO⁰TOP HALF BLACK CIRCLE",
    "⁰BOTTOM HALF BLACK CIRCLE⁰LIGHT FOUR POINTED BLACK CUSP",
    "⁰ROTATED LIGHT FOUR POINTED BLACK CUSP⁰WHITE FOUR POINTED CUSP",
    "⁰ROTATED WHITE FOUR POINTED CUSP⁰SQUARE POSITION INDICATOR⁰UNCERTAINTY SIGN⁰GROUP MARK",
    "⁰PLUTO FORM TWO²THREE²FOUR²FIVE⁰TRANSPLUTO⁰PROSERPINA⁰ASTRAEA⁰HYGIEA⁰PHOLUS⁰NESSUS",
    "⁰WHITE MOON SELENA⁰BLACK DIAMOND ON CROSS⁰TRUE LIGHT MOON ARTA⁰CUPIDO⁰HADES⁰ZEUS⁰KRONOS",
    "⁰APOLLON⁰ADMETOS⁰VULCANUS⁰POSEIDON⁰LEFT HALF BLACK STAR⁰RIGHT HALF BLACK STAR",
    "⁰STAR WITH LEFT HALF BLACK²RIGHT HALF BLACK",
    "⁰LEFTWARDS TWO-HEADED ARROW WITH TRIANGLE ARROWHEADS",
    "⁰UPWARDS TWO-HEADED ARROW WITH TRIANGLE ARROWHEADS",
    "⁰RIGHTWARDS TWO-HEADED ARROW WITH TRIANGLE ARROWHEADS",
    "⁰DOWNWARDS TWO-HEADED ARROW WITH TRIANGLE ARROWHEADS⁰ERIS FORM ONE²TWO⁰SEDNA",
    "⁰RUSSIAN ASTROLOGICAL SYMBOL VIGINTILE³NOVILE³QUINTILE³BINOVILE³SENTAGON³TREDECILE",
    "⁰EQUALS SIGN WITH INFINITY BELOW⁰UNITED SYMBOL⁰SEPARATED SYMBOL⁰DOUBLED SYMBOL",
    "⁰PASSED SYMBOL⁰REVERSED RIGHT ANGLE⁰HELLSCHREIBER PAUSE SYMBOL"]⟩]

end BlockLang.CharName
