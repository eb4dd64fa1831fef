import BlockLang.Encoding.CharName.Basic

/-! # Names of East Asian characters -/

namespace BlockLang.CharName

/-- The names of the scripts from Glagolitic to kana, and of symbols of East Asia. -/
def eastAsian : List Run := [
  ⟨0x2c00, [
    "⁰GLAGOLITIC CAPITAL LETTER AZU³BUKY³VEDE³GLAGOLI³DOBRO³YESTU³ZHIVETE³DZELO³ZEMLJA³IZHE",
    "³INITIAL IZHE³I³DJERVI³KAKO³LJUDIJE³MYSLITE³NASHI³ONU³POKOJI³RITSI³SLOVO³TVRIDO³UKU",
    "³FRITU³HERU³OTU³PE³SHTA³TSI³CHRIVI³SHA³YERU³YERI³YATI³SPIDERY HA³YU³SMALL YUS⁵WITH TAIL",
    "³YO³IOTATED SMALL YUS³BIG YUS³IOTATED BIG YUS³FITA³IZHITSA³SHTAPIC³TROKUTASTI A",
    "³LATINATE MYSLITE³CAUDATE CHRIVI¹SMALL LETTER AZU³BUKY³VEDE³GLAGOLI³DOBRO³YESTU³ZHIVETE",
    "³DZELO³ZEMLJA³IZHE³INITIAL IZHE³I³DJERVI³KAKO³LJUDIJE³MYSLITE³NASHI³ONU³POKOJI³RITSI",
    "³SLOVO³TVRIDO³UKU³FRITU³HERU³OTU³PE³SHTA³TSI³CHRIVI³SHA³YERU³YERI³YATI³SPIDERY HA³YU",
    "³SMALL YUS⁵WITH TAIL³YO³IOTATED SMALL YUS³BIG YUS³IOTATED BIG YUS³FITA³IZHITSA³SHTAPIC",
    "³TROKUTASTI A³LATINATE MYSLITE³CAUDATE CHRIVI⁰LATIN CAPITAL LETTER L WITH DOUBLE BAR",
    "¹SMALL LETTER L WITH DOUBLE BAR¹CAPITAL LETTER L WITH MIDDLE TILDE³P WITH STROKE",
    "³R WITH TAIL¹SMALL LETTER A WITH STROKE³T WITH DIAGONAL STROKE",
    "¹CAPITAL LETTER H WITH DESCENDER¹SMALL LETTER H WITH DESCENDER",
    "¹CAPITAL LETTER K WITH DESCENDER¹SMALL LETTER K WITH DESCENDER",
    "¹CAPITAL LETTER Z WITH DESCENDER¹SMALL LETTER Z WITH DESCENDER¹CAPITAL LETTER ALPHA",
    "³M WITH HOOK³TURNED A⁴ALPHA¹SMALL LETTER V WITH RIGHT HOOK¹CAPITAL LETTER W WITH HOOK",
    "¹SMALL LETTER W WITH HOOK³V WITH CURL¹CAPITAL LETTER HALF H¹SMALL LETTER HALF H",
    "³TAILLESS PHI³E WITH NOTCH³TURNED R WITH TAIL³O WITH LOW RING INSIDE",
    "¹LETTER SMALL CAPITAL TURNED E¹SUBSCRIPT SMALL LETTER J⁰MODIFIER LETTER CAPITAL V",
    "⁰LATIN CAPITAL LETTER S WITH SWASH TAIL³Z WITH SWASH TAIL⁰COPTIC CAPITAL LETTER ALFA",
    "¹SMALL LETTER ALFA¹CAPITAL LETTER VIDA¹SMALL LETTER VIDA¹CAPITAL LETTER GAMMA",
    "¹SMALL LETTER GAMMA¹CAPITAL LETTER DALDA¹SMALL LETTER DALDA¹CAPITAL LETTER EIE",
    "¹SMALL LETTER EIE¹CAPITAL LETTER SOU¹SMALL LETTER SOU¹CAPITAL LETTER ZATA",
    "¹SMALL LETTER ZATA¹CAPITAL LETTER HATE¹SMALL LETTER HATE¹CAPITAL LETTER THETHE",
    "¹SMALL LETTER THETHE¹CAPITAL LETTER IAUDA¹SMALL LETTER IAUDA¹CAPITAL LETTER KAPA",
    "¹SMALL LETTER KAPA¹CAPITAL LETTER LAULA¹SMALL LETTER LAULA¹CAPITAL LETTER MI",
    "¹SMALL LETTER MI¹CAPITAL LETTER NI¹SMALL LETTER NI¹CAPITAL LETTER KSI¹SMALL LETTER KSI",
    "¹CAPITAL LETTER O¹SMALL LETTER O¹CAPITAL LETTER PI¹SMALL LETTER PI¹CAPITAL LETTER RO",
    "¹SMALL LETTER RO¹CAPITAL LETTER SIMA¹SMALL LETTER SIMA¹CAPITAL LETTER TAU",
    "¹SMALL LETTER TAU¹CAPITAL LETTER UA¹SMALL LETTER UA¹CAPITAL LETTER FI¹SMALL LETTER FI",
    "¹CAPITAL LETTER KHI¹SMALL LETTER KHI¹CAPITAL LETTER PSI¹SMALL LETTER PSI",
    "¹CAPITAL LETTER OOU¹SMALL LETTER OOU¹CAPITAL LETTER DIALECT-P ALEF",
    "¹SMALL LETTER DIALECT-P ALEF¹CAPITAL LETTER OLD COPTIC AIN¹SMALL LETTER OLD COPTIC AIN",
    "¹CAPITAL LETTER CRYPTOGRAMMIC EIE¹SMALL LETTER CRYPTOGRAMMIC EIE",
    "¹CAPITAL LETTER DIALECT-P KAPA¹SMALL LETTER DIALECT-P KAPA¹CAPITAL LETTER DIALECT-P NI",
    "¹SMALL LETTER DIALECT-P NI¹CAPITAL LETTER CRYPTOGRAMMIC NI¹SMALL LETTER CRYPTOGRAMMIC NI",
    "¹CAPITAL LETTER OLD COPTIC OOU¹SMALL LETTER OLD COPTIC OOU¹CAPITAL LETTER SAMPI",
    "¹SMALL LETTER SAMPI¹CAPITAL LETTER CROSSED SHEI¹SMALL LETTER CROSSED SHEI",
    "¹CAPITAL LETTER OLD COPTIC SHEI¹SMALL LETTER OLD COPTIC SHEI",
    "¹CAPITAL LETTER OLD COPTIC ESH¹SMALL LETTER OLD COPTIC ESH¹CAPITAL LETTER AKHMIMIC KHEI",
    "¹SMALL LETTER AKHMIMIC KHEI¹CAPITAL LETTER DIALECT-P HORI¹SMALL LETTER DIALECT-P HORI",
    "¹CAPITAL LETTER OLD COPTIC HORI¹SMALL LETTER OLD COPTIC HORI",
    "¹CAPITAL LETTER OLD COPTIC HA¹SMALL LETTER OLD COPTIC HA¹CAPITAL LETTER L-SHAPED HA",
    "¹SMALL LETTER L-SHAPED HA¹CAPITAL LETTER OLD COPTIC HEI¹SMALL LETTER OLD COPTIC HEI",
    "¹CAPITAL LETTER OLD COPTIC HAT¹SMALL LETTER OLD COPTIC HAT",
    "¹CAPITAL LETTER OLD COPTIC GANGIA¹SMALL LETTER OLD COPTIC GANGIA",
    "¹CAPITAL LETTER OLD COPTIC DJA¹SMALL LETTER OLD COPTIC DJA",
    "¹CAPITAL LETTER OLD COPTIC SHIMA¹SMALL LETTER OLD COPTIC SHIMA",
    "¹CAPITAL LETTER OLD NUBIAN SHIMA¹SMALL LETTER OLD NUBIAN SHIMA",
    "¹CAPITAL LETTER OLD NUBIAN NGI¹SMALL LETTER OLD NUBIAN NGI¹CAPITAL LETTER OLD NUBIAN NYI",
    "¹SMALL LETTER OLD NUBIAN NYI¹CAPITAL LETTER OLD NUBIAN WAU¹SMALL LETTER OLD NUBIAN WAU",
    "¹SYMBOL KAI²MI RO²PI RO²STAUROS²TAU RO²KHI RO²SHIMA SIMA",
    "¹CAPITAL LETTER CRYPTOGRAMMIC SHEI¹SMALL LETTER CRYPTOGRAMMIC SHEI",
    "¹CAPITAL LETTER CRYPTOGRAMMIC GANGIA¹SMALL LETTER CRYPTOGRAMMIC GANGIA",
    "¹COMBINING NI ABOVE²SPIRITUS ASPER³LENIS¹CAPITAL LETTER BOHAIRIC KHEI",
    "¹SMALL LETTER BOHAIRIC KHEI"]⟩,
  ⟨0x2cf9, [
    "⁰COPTIC OLD NUBIAN FULL STOP³DIRECT QUESTION MARK³INDIRECT QUESTION MARK³VERSE DIVIDER",
    "¹FRACTION ONE HALF¹FULL STOP¹MORPHOLOGICAL DIVIDER⁰GEORGIAN SMALL LETTER AN³BAN³GAN³DON",
    "³EN³VIN³ZEN³TAN³IN³KAN³LAS³MAN³NAR³ON³PAR³ZHAR³RAE³SAN³TAR³UN³PHAR³KHAR³GHAN³QAR³SHIN",
    "³CHIN³CAN³JIL³CIL³CHAR³XAN³JHAN³HAE³HE³HIE³WE³HAR³HOE"]⟩,
  ⟨0x2d27, ["⁰GEORGIAN SMALL LETTER YN"]⟩,
  ⟨0x2d2d, ["⁰GEORGIAN SMALL LETTER AEN"]⟩,
  ⟨0x2d30, [
    "⁰TIFINAGH LETTER YA²YAB²YABH²YAG²YAGHH²BERBER ACADEMY YAJ²YAJ²YAD²YADH²YADD²YADDH²YEY",
    "²YAF²YAK²TUAREG YAK²YAKHH²YAH²BERBER ACADEMY YAH²TUAREG YAH²YAHH²YAA²YAKH²TUAREG YAKH",
    "²YAQ²TUAREG YAQ²YI²YAZH²AHAGGAR YAZH²TUAREG YAZH²YAL²YAM²YAN²TUAREG YAGN³YANG²YAP²YU²YAR",
    "²YARR²YAGH²TUAREG YAGH²AYER YAGH²YAS²YASS²YASH²YAT²YATH²YACH²YATT²YAV²YAW²YAY²YAZ",
    "²TAWELLEMET YAZ²YAZZ²YE²YO"]⟩,
  ⟨0x2d6f, ["⁰TIFINAGH MODIFIER LETTER LABIALIZATION MARK¹SEPARATOR MARK"]⟩,
  ⟨0x2d7f, [
    "⁰TIFINAGH CONSONANT JOINER⁰ETHIOPIC SYLLABLE LOA²MOA²ROA²SOA²SHOA²BOA²TOA²COA²NOA²NYOA",
    "²GLOTTAL OA²ZOA²DOA²DDOA²JOA²THOA²CHOA²PHOA²POA²GGWA²GGWI²GGWEE²GGWE"]⟩,
  ⟨0x2da0, ["⁰ETHIOPIC SYLLABLE SSA²SSU²SSI²SSAA²SSEE²SSE²SSO"]⟩,
  ⟨0x2da8, ["⁰ETHIOPIC SYLLABLE CCA²CCU²CCI²CCAA²CCEE²CCE²CCO"]⟩,
  ⟨0x2db0, ["⁰ETHIOPIC SYLLABLE ZZA²ZZU²ZZI²ZZAA²ZZEE²ZZE²ZZO"]⟩,
  ⟨0x2db8, ["⁰ETHIOPIC SYLLABLE CCHA²CCHU²CCHI²CCHAA²CCHEE²CCHE²CCHO"]⟩,
  ⟨0x2dc0, ["⁰ETHIOPIC SYLLABLE QYA²QYU²QYI²QYAA²QYEE²QYE²QYO"]⟩,
  ⟨0x2dc8, ["⁰ETHIOPIC SYLLABLE KYA²KYU²KYI²KYAA²KYEE²KYE²KYO"]⟩,
  ⟨0x2dd0, ["⁰ETHIOPIC SYLLABLE XYA²XYU²XYI²XYAA²XYEE²XYE²XYO"]⟩,
  ⟨0x2dd8, ["⁰ETHIOPIC SYLLABLE GYA²GYU²GYI²GYAA²GYEE²GYE²GYO"]⟩,
  ⟨0x2de0, [
    "⁰COMBINING CYRILLIC LETTER BE³VE³GHE³DE³ZHE³ZE³KA³EL³EM³EN³O³PE³ER³ES³TE³HA³TSE³CHE³SHA",
    "³SHCHA³FITA³ES-TE³A³IE³DJERV³MONOGRAPH UK³YAT³YU³IOTIFIED A³LITTLE YUS³BIG YUS",
    "³IOTIFIED BIG YUS⁰RIGHT ANGLE SUBSTITUTION MARKER²DOTTED SUBSTITUTION MARKER",
    "⁰LEFT SUBSTITUTION BRACKET⁰RIGHT SUBSTITUTION BRACKET⁰LEFT DOTTED SUBSTITUTION BRACKET",
    "⁰RIGHT DOTTED SUBSTITUTION BRACKET⁰RAISED INTERPOLATION MARKER",
    "¹DOTTED INTERPOLATION MARKER⁰DOTTED TRANSPOSITION MARKER⁰LEFT TRANSPOSITION BRACKET",
    "⁰RIGHT TRANSPOSITION BRACKET⁰RAISED SQUARE⁰LEFT RAISED OMISSION BRACKET",
    "⁰RIGHT RAISED OMISSION BRACKET⁰EDITORIAL CORONIS⁰PARAGRAPHOS⁰FORKED PARAGRAPHOS",
    "⁰REVERSED FORKED PARAGRAPHOS⁰HYPODIASTOLE⁰DOTTED OBELOS⁰DOWNWARDS ANCORA⁰UPWARDS ANCORA",
    "⁰DOTTED RIGHT-POINTING ANGLE⁰DOUBLE OBLIQUE HYPHEN⁰INVERTED INTERROBANG⁰PALM BRANCH",
    "⁰HYPHEN WITH DIAERESIS⁰TILDE WITH RING ABOVE⁰LEFT LOW PARAPHRASE BRACKET",
    "⁰RIGHT LOW PARAPHRASE BRACKET⁰TILDE WITH DOT ABOVE³BELOW⁰LEFT VERTICAL BAR WITH QUILL",
    "⁰RIGHT VERTICAL BAR WITH QUILL⁰TOP LEFT HALF BRACKET¹RIGHT HALF BRACKET",
    "⁰BOTTOM LEFT HALF BRACKET¹RIGHT HALF BRACKET⁰LEFT SIDEWAYS U BRACKET",
    "⁰RIGHT SIDEWAYS U BRACKET⁰LEFT DOUBLE PARENTHESIS⁰RIGHT DOUBLE PARENTHESIS",
    "⁰TWO DOTS OVER ONE DOT PUNCTUATION⁰ONE DOT OVER TWO DOTS PUNCTUATION",
    "⁰SQUARED FOUR DOT PUNCTUATION⁰FIVE DOT MARK⁰REVERSED QUESTION MARK⁰VERTICAL TILDE",
    "⁰RING POINT⁰WORD SEPARATOR MIDDLE DOT⁰TURNED COMMA⁰RAISED DOT¹COMMA⁰TURNED SEMICOLON",
    "⁰DAGGER WITH LEFT GUARD²RIGHT GUARD⁰TURNED DAGGER⁰TOP HALF SECTION SIGN⁰TWO-EM DASH",
    "⁰THREE-EM DASH⁰STENOGRAPHIC FULL STOP⁰VERTICAL SIX DOTS⁰WIGGLY VERTICAL LINE⁰CAPITULUM",
    "⁰DOUBLE HYPHEN⁰REVERSED COMMA⁰DOUBLE LOW-REVERSED-9 QUOTATION MARK⁰DASH WITH LEFT UPTURN",
    "⁰DOUBLE SUSPENSION MARK⁰INVERTED LOW KAVYKA³WITH KAVYKA ABOVE⁰LOW KAVYKA²WITH DOT",
    "⁰DOUBLE STACKED COMMA⁰DOTTED SOLIDUS⁰TRIPLE DAGGER⁰MEDIEVAL COMMA⁰PARAGRAPHUS MARK",
    "⁰PUNCTUS ELEVATUS MARK⁰CORNISH VERSE DIVIDER⁰CROSS PATTY WITH RIGHT CROSSBAR",
    "³LEFT CROSSBAR⁰TIRONIAN SIGN CAPITAL ET⁰MEDIEVAL EXCLAMATION MARK¹QUESTION MARK",
    "⁰LEFT SQUARE BRACKET WITH STROKE⁰RIGHT SQUARE BRACKET WITH STROKE",
    "⁰LEFT SQUARE BRACKET WITH DOUBLE STROKE⁰RIGHT SQUARE BRACKET WITH DOUBLE STROKE",
    "⁰TOP HALF LEFT PARENTHESIS²RIGHT PARENTHESIS⁰BOTTOM HALF LEFT PARENTHESIS",
    "²RIGHT PARENTHESIS⁰OBLIQUE HYPHEN"]⟩,
  ⟨0x2e80, [
    "⁰CJK RADICAL REPEAT²CLIFF²SECOND ONE³TWO³THREE²PERSON²BOX²TABLE²KNIFE ONE³TWO²DIVINATION",
    "²SEAL²SMALL ONE³TWO²LAME ONE³TWO³THREE³FOUR²SNAKE²THREAD²SNOUT ONE³TWO²HEART ONE³TWO",
    "²HAND²RAP"]⟩,
  ⟨0x2e9b, [
    "⁰CJK RADICAL CHOKE²SUN²MOON²DEATH²MOTHER²CIVILIAN²WATER ONE³TWO²FIRE²PAW ONE³TWO",
    "²SIMPLIFIED HALF TREE TRUNK²COW²DOG²JADE²BOLT OF CLOTH²EYE²SPIRIT ONE³TWO²BAMBOO²SILK",
    "²C-SIMPLIFIED SILK²NET ONE³TWO³THREE³FOUR²MESH²SHEEP²RAM²EWE²OLD²BRUSH ONE³TWO²MEAT",
    "²MORTAR²GRASS ONE³TWO³THREE²TIGER²CLOTHES²WEST ONE³TWO²C-SIMPLIFIED SEE²SIMPLIFIED HORN",
    "²HORN²C-SIMPLIFIED SPEECH³SHELL²FOOT²C-SIMPLIFIED CART²SIMPLIFIED WALK²WALK ONE³TWO²CITY",
    "²C-SIMPLIFIED GOLD²LONG ONE³TWO²C-SIMPLIFIED LONG³GATE²MOUND ONE³TWO²RAIN²BLUE",
    "²C-SIMPLIFIED TANNED LEATHER³LEAF³WIND³FLY²EAT ONE³TWO³THREE²C-SIMPLIFIED EAT²HEAD",
    "²C-SIMPLIFIED HORSE²BONE²GHOST²C-SIMPLIFIED FISH³BIRD³SALT²SIMPLIFIED WHEAT³YELLOW",
    "²C-SIMPLIFIED FROG²J-SIMPLIFIED EVEN²C-SIMPLIFIED EVEN²J-SIMPLIFIED TOOTH",
    "²C-SIMPLIFIED TOOTH²J-SIMPLIFIED DRAGON²C-SIMPLIFIED DRAGON²TURTLE²J-SIMPLIFIED TURTLE",
    "²C-SIMPLIFIED TURTLE"]⟩,
  ⟨0x2f00, [
    "⁰KANGXI RADICAL ONE²LINE²DOT²SLASH²SECOND²HOOK²TWO²LID²MAN²LEGS²ENTER²EIGHT²DOWN BOX",
    "²COVER²ICE²TABLE²OPEN BOX²KNIFE²POWER²WRAP²SPOON²RIGHT OPEN BOX²HIDING ENCLOSURE²TEN",
    "²DIVINATION²SEAL²CLIFF²PRIVATE²AGAIN²MOUTH²ENCLOSURE²EARTH²SCHOLAR²GO³SLOWLY²EVENING²BIG",
    "²WOMAN²CHILD²ROOF²INCH²SMALL²LAME²CORPSE²SPROUT²MOUNTAIN²RIVER²WORK²ONESELF²TURBAN²DRY",
    "²SHORT THREAD²DOTTED CLIFF²LONG STRIDE²TWO HANDS²SHOOT²BOW²SNOUT²BRISTLE²STEP²HEART",
    "²HALBERD²DOOR²HAND²BRANCH²RAP²SCRIPT²DIPPER²AXE²SQUARE²NOT²SUN²SAY²MOON²TREE²LACK²STOP",
    "²DEATH²WEAPON²DO NOT²COMPARE²FUR²CLAN²STEAM²WATER²FIRE²CLAW²FATHER²DOUBLE X",
    "²HALF TREE TRUNK²SLICE²FANG²COW²DOG²PROFOUND²JADE²MELON²TILE²SWEET²LIFE²USE²FIELD",
    "²BOLT OF CLOTH²SICKNESS²DOTTED TENT²WHITE²SKIN²DISH²EYE²SPEAR²ARROW²STONE²SPIRIT²TRACK",
    "²GRAIN²CAVE²STAND²BAMBOO²RICE²SILK²JAR²NET²SHEEP²FEATHER²OLD²AND²PLOW²EAR²BRUSH²MEAT",
    "²MINISTER²SELF²ARRIVE²MORTAR²TONGUE²OPPOSE²BOAT²STOPPING²COLOR²GRASS²TIGER²INSECT²BLOOD",
    "²WALK ENCLOSURE²CLOTHES²WEST²SEE²HORN²SPEECH²VALLEY²BEAN²PIG²BADGER²SHELL²RED²RUN²FOOT",
    "²BODY²CART²BITTER²MORNING²WALK²CITY²WINE²DISTINGUISH²VILLAGE²GOLD²LONG²GATE²MOUND²SLAVE",
    "²SHORT TAILED BIRD²RAIN²BLUE²WRONG²FACE²LEATHER²TANNED LEATHER²LEEK²SOUND²LEAF²WIND²FLY",
    "²EAT²HEAD²FRAGRANT²HORSE²BONE²TALL²HAIR²FIGHT²SACRIFICIAL WINE²CAULDRON²GHOST²FISH²BIRD",
    "²SALT²DEER²WHEAT²HEMP²YELLOW²MILLET²BLACK²EMBROIDERY²FROG²TRIPOD²DRUM²RAT²NOSE²EVEN",
    "²TOOTH²DRAGON²TURTLE²FLUTE"]⟩,
  ⟨0x2ff0, [
    "⁰IDEOGRAPHIC DESCRIPTION CHARACTER LEFT TO RIGHT³ABOVE TO BELOW³LEFT TO MIDDLE AND RIGHT",
    "³ABOVE TO MIDDLE AND BELOW³FULL SURROUND³SURROUND FROM ABOVE⁵BELOW⁵LEFT⁵UPPER LEFT⁶RIGHT",
    "⁵LOWER LEFT³OVERLAID"]⟩,
  ⟨0x3000, [
    "⁰IDEOGRAPHIC SPACE¹COMMA¹FULL STOP⁰DITTO MARK⁰JAPANESE INDUSTRIAL STANDARD SYMBOL",
    "⁰IDEOGRAPHIC ITERATION MARK¹CLOSING MARK¹NUMBER ZERO⁰LEFT ANGLE BRACKET",
    "⁰RIGHT ANGLE BRACKET⁰LEFT DOUBLE ANGLE BRACKET⁰RIGHT DOUBLE ANGLE BRACKET",
    "⁰LEFT CORNER BRACKET⁰RIGHT CORNER BRACKET⁰LEFT WHITE CORNER BRACKET",
    "⁰RIGHT WHITE CORNER BRACKET⁰LEFT BLACK LENTICULAR BRACKET⁰RIGHT BLACK LENTICULAR BRACKET",
    "⁰POSTAL MARK⁰GETA MARK⁰LEFT TORTOISE SHELL BRACKET⁰RIGHT TORTOISE SHELL BRACKET",
    "⁰LEFT WHITE LENTICULAR BRACKET⁰RIGHT WHITE LENTICULAR BRACKET",
    "⁰LEFT WHITE TORTOISE SHELL BRACKET⁰RIGHT WHITE TORTOISE SHELL BRACKET",
    "⁰LEFT WHITE SQUARE BRACKET⁰RIGHT WHITE SQUARE BRACKET⁰WAVE DASH",
    "⁰REVERSED DOUBLE PRIME QUOTATION MARK⁰DOUBLE PRIME QUOTATION MARK",
    "⁰LOW DOUBLE PRIME QUOTATION MARK⁰POSTAL MARK FACE⁰HANGZHOU NUMERAL ONE²TWO²THREE²FOUR",
    "²FIVE²SIX²SEVEN²EIGHT²NINE⁰IDEOGRAPHIC LEVEL TONE MARK¹RISING TONE MARK",
    "¹DEPARTING TONE MARK¹ENTERING TONE MARK⁰HANGUL SINGLE DOT TONE MARK¹DOUBLE DOT TONE MARK",
    "⁰WAVY DASH⁰VERTICAL KANA REPEAT MARK³WITH VOICED SOUND MARK³MARK UPPER HALF",
    "³WITH VOICED SOUND MARK UPPER HALF³MARK LOWER HALF⁰CIRCLED POSTAL MARK",
    "⁰IDEOGRAPHIC TELEGRAPH LINE FEED SEPARATOR SYMBOL⁰HANGZHOU NUMERAL TEN²TWENTY²THIRTY",
    "⁰VERTICAL IDEOGRAPHIC ITERATION MARK⁰MASU MARK⁰PART ALTERNATION MARK",
    "⁰IDEOGRAPHIC VARIATION INDICATOR¹HALF FILL SPACE"]⟩,
  ⟨0x3041, [
    "⁰HIRAGANA LETTER SMALL A²A²SMALL I²I²SMALL U²U²SMALL E²E²SMALL O²O²KA²GA²KI²GI²KU²GU²KE",
    "²GE²KO²GO²SA²ZA²SI²ZI²SU²ZU²SE²ZE²SO²ZO²TA²DA²TI²DI²SMALL TU²TU²DU²TE²DE²TO²DO²NA²NI²NU",
    "²NE²NO²HA²BA²PA²HI²BI²PI²HU²BU²PU²HE²BE²PE²HO²BO²PO²MA²MI²MU²ME²MO²SMALL YA²YA²SMALL YU",
    "²YU²SMALL YO²YO²RA²RI²RU²RE²RO²SMALL WA²WA²WI²WE²WO²N²VU²SMALL KA³KE"]⟩,
  ⟨0x3099, [
    "⁰COMBINING KATAKANA-HIRAGANA VOICED SOUND MARK²SEMI-VOICED SOUND MARK",
    "⁰KATAKANA-HIRAGANA VOICED SOUND MARK¹SEMI-VOICED SOUND MARK⁰HIRAGANA ITERATION MARK",
    "¹VOICED ITERATION MARK¹DIGRAPH YORI⁰KATAKANA-HIRAGANA DOUBLE HYPHEN",
    "⁰KATAKANA LETTER SMALL A²A²SMALL I²I²SMALL U²U²SMALL E²E²SMALL O²O²KA²GA²KI²GI²KU²GU²KE",
    "²GE²KO²GO²SA²ZA²SI²ZI²SU²ZU²SE²ZE²SO²ZO²TA²DA²TI²DI²SMALL TU²TU²DU²TE²DE²TO²DO²NA²NI²NU",
    "²NE²NO²HA²BA²PA²HI²BI²PI²HU²BU²PU²HE²BE²PE²HO²BO²PO²MA²MI²MU²ME²MO²SMALL YA²YA²SMALL YU",
    "²YU²SMALL YO²YO²RA²RI²RU²RE²RO²SMALL WA²WA²WI²WE²WO²N²VU²SMALL KA³KE²VA²VI²VE²VO",
    "¹MIDDLE DOT⁰KATAKANA-HIRAGANA PROLONGED SOUND MARK⁰KATAKANA ITERATION MARK",
    "¹VOICED ITERATION MARK¹DIGRAPH KOTO"]⟩,
  ⟨0x3105, [
    "⁰BOPOMOFO LETTER B²P²M²F²D²T²N²L²G²K²H²J²Q²X²ZH²CH²SH²R²Z²C²S²A²O²E²EH²AI²EI²AU²OU²AN²EN",
    "²ANG²ENG²ER²I²U²IU²V²NG²GN²IH²O WITH DOT ABOVE²NN"]⟩,
  ⟨0x3131, [
    "⁰HANGUL LETTER KIYEOK²SSANGKIYEOK²KIYEOK-SIOS²NIEUN²NIEUN-CIEUC²NIEUN-HIEUH²TIKEUT",
    "²SSANGTIKEUT²RIEUL²RIEUL-KIYEOK²RIEUL-MIEUM²RIEUL-PIEUP²RIEUL-SIOS²RIEUL-THIEUTH",
    "²RIEUL-PHIEUPH²RIEUL-HIEUH²MIEUM²PIEUP²SSANGPIEUP²PIEUP-SIOS²SIOS²SSANGSIOS²IEUNG²CIEUC",
    "²SSANGCIEUC²CHIEUCH²KHIEUKH²THIEUTH²PHIEUPH²HIEUH²A²AE²YA²YAE²EO²E²YEO²YE²O²WA²WAE²OE²YO",
    "²U²WEO²WE²WI²YU²EU²YI²I¹FILLER¹LETTER SSANGNIEUN²NIEUN-TIKEUT²NIEUN-SIOS²NIEUN-PANSIOS",
    "²RIEUL-KIYEOK-SIOS²RIEUL-TIKEUT²RIEUL-PIEUP-SIOS²RIEUL-PANSIOS²RIEUL-YEORINHIEUH",
    "²MIEUM-PIEUP²MIEUM-SIOS²MIEUM-PANSIOS²KAPYEOUNMIEUM²PIEUP-KIYEOK²PIEUP-TIKEUT",
    "²PIEUP-SIOS-KIYEOK²PIEUP-SIOS-TIKEUT²PIEUP-CIEUC²PIEUP-THIEUTH²KAPYEOUNPIEUP",
    "²KAPYEOUNSSANGPIEUP²SIOS-KIYEOK²SIOS-NIEUN²SIOS-TIKEUT²SIOS-PIEUP²SIOS-CIEUC²PANSIOS",
    "²SSANGIEUNG²YESIEUNG²YESIEUNG-SIOS²YESIEUNG-PANSIOS²KAPYEOUNPHIEUPH²SSANGHIEUH",
    "²YEORINHIEUH²YO-YA²YO-YAE²YO-I²YU-YEO²YU-YE²YU-I²ARAEA²ARAEAE"]⟩,
  ⟨0x3190, [
    "⁰IDEOGRAPHIC ANNOTATION LINKING MARK²REVERSE MARK²ONE MARK²TWO MARK²THREE MARK²FOUR MARK",
    "²TOP MARK²MIDDLE MARK²BOTTOM MARK²FIRST MARK²SECOND MARK²THIRD MARK²FOURTH MARK",
    "²HEAVEN MARK²EARTH MARK²MAN MARK⁰BOPOMOFO LETTER BU²ZI²JI²GU²EE²ENN²OO²ONN²IR²ANN²INN",
    "²UNN²IM²NGG²AINN²AUNN²AM²OM²ONG²INNN¹FINAL LETTER P³T³K³H¹LETTER GH²LH²ZY¹FINAL LETTER G",
    "¹LETTER GW²KW²OE²AH⁰CJK STROKE T²WG²XG²BXG²SW²HZZ²HZG²HP²HZWG²SZWG²HZT²HZZP²HPWG²HZW",
    "²HZZZ²N²H²S²P²SP²D²HZ²HG²SZ²SWZ²ST²SG²PD²PZ²TN²SZZ²SWG²HXWG²HZZZG²PG²Q"]⟩,
  ⟨0x31f0, [
    "⁰KATAKANA LETTER SMALL KU³SI³SU³TO³NU³HA³HI³HU³HE³HO³MU³RA³RI³RU³RE³RO",
    "⁰PARENTHESIZED HANGUL KIYEOK²NIEUN²TIKEUT²RIEUL²MIEUM²PIEUP²SIOS²IEUNG²CIEUC²CHIEUCH",
    "²KHIEUKH²THIEUTH²PHIEUPH²HIEUH²KIYEOK A²NIEUN A²TIKEUT A²RIEUL A²MIEUM A²PIEUP A²SIOS A",
    "²IEUNG A²CIEUC A²CHIEUCH A²KHIEUKH A²THIEUTH A²PHIEUPH A²HIEUH A²CIEUC U",
    "¹KOREAN CHARACTER OJEON³O HU"]⟩,
  ⟨0x3220, [
    "⁰PARENTHESIZED IDEOGRAPH ONE²TWO²THREE²FOUR²FIVE²SIX²SEVEN²EIGHT²NINE²TEN²MOON²FIRE",
    "²WATER²WOOD²METAL²EARTH²SUN²STOCK²HAVE²SOCIETY²NAME²SPECIAL²FINANCIAL²CONGRATULATION",
    "²LABOR²REPRESENT²CALL²STUDY²SUPERVISE²ENTERPRISE²RESOURCE²ALLIANCE²FESTIVAL²REST²SELF",
    "²REACH⁰CIRCLED IDEOGRAPH QUESTION²KINDERGARTEN²SCHOOL²KOTO¹NUMBER TEN ON BLACK SQUARE",
    "²TWENTY ON BLACK SQUARE²THIRTY ON BLACK SQUARE²FORTY ON BLACK SQUARE",
    "²FIFTY ON BLACK SQUARE²SIXTY ON BLACK SQUARE²SEVENTY ON BLACK SQUARE",
    "²EIGHTY ON BLACK SQUARE⁰PARTNERSHIP SIGN⁰CIRCLED NUMBER TWENTY ONE³TWO³THREE³FOUR³FIVE",
    "³SIX³SEVEN³EIGHT³NINE²THIRTY³ONE³TWO³THREE³FOUR³FIVE¹HANGUL KIYEOK²NIEUN²TIKEUT²RIEUL",
    "²MIEUM²PIEUP²SIOS²IEUNG²CIEUC²CHIEUCH²KHIEUKH²THIEUTH²PHIEUPH²HIEUH²KIYEOK A²NIEUN A",
    "²TIKEUT A²RIEUL A²MIEUM A²PIEUP A²SIOS A²IEUNG A²CIEUC A²CHIEUCH A²KHIEUKH A²THIEUTH A",
    "²PHIEUPH A²HIEUH A¹KOREAN CHARACTER CHAMKO³JUEUI¹HANGUL IEUNG U⁰KOREAN STANDARD SYMBOL",
    "⁰CIRCLED IDEOGRAPH ONE²TWO²THREE²FOUR²FIVE²SIX²SEVEN²EIGHT²NINE²TEN²MOON²FIRE²WATER²WOOD",
    "²METAL²EARTH²SUN²STOCK²HAVE²SOCIETY²NAME²SPECIAL²FINANCIAL²CONGRATULATION²LABOR²SECRET",
    "²MALE²FEMALE²SUITABLE²EXCELLENT²PRINT²ATTENTION²ITEM²REST²COPY²CORRECT²HIGH²CENTRE²LOW",
    "²LEFT²RIGHT²MEDICINE²RELIGION²STUDY²SUPERVISE²ENTERPRISE²RESOURCE²ALLIANCE²NIGHT",
    "¹NUMBER THIRTY SIX³SEVEN³EIGHT³NINE²FORTY³ONE³TWO³THREE³FOUR³FIVE³SIX³SEVEN³EIGHT³NINE",
    "²FIFTY⁰IDEOGRAPHIC TELEGRAPH SYMBOL FOR JANUARY⁴FEBRUARY⁴MARCH⁴APRIL⁴MAY⁴JUNE⁴JULY",
    "⁴AUGUST⁴SEPTEMBER⁴OCTOBER⁴NOVEMBER⁴DECEMBER⁰SQUARE HG¹ERG¹EV⁰LIMITED LIABILITY SIGN",
    "⁰CIRCLED KATAKANA A²I²U²E²O²KA²KI²KU²KE²KO²SA²SI²SU²SE²SO²TA²TI²TU²TE²TO²NA²NI²NU²NE²NO",
    "²HA²HI²HU²HE²HO²MA²MI²MU²ME²MO²YA²YU²YO²RA²RI²RU²RE²RO²WA²WI²WE²WO⁰SQUARE ERA NAME REIWA",
    "¹APAATO¹ARUHUA¹ANPEA¹AARU¹ININGU¹INTI¹UON¹ESUKUUDO¹EEKAA¹ONSU¹OOMU¹KAIRI¹KARATTO¹KARORII",
    "¹GARON¹GANMA¹GIGA¹GINII¹KYURII¹GIRUDAA¹KIRO¹KIROGURAMU¹KIROMEETORU¹KIROWATTO¹GURAMU",
    "¹GURAMUTON¹KURUZEIRO¹KUROONE¹KEESU¹KORUNA¹KOOPO¹SAIKURU¹SANTIIMU¹SIRINGU¹SENTI¹SENTO",
    "¹DAASU¹DESI¹DORU¹TON¹NANO¹NOTTO¹HAITU¹PAASENTO¹PAATU¹BAARERU¹PIASUTORU¹PIKURU¹PIKO¹BIRU",
    "¹HUARADDO¹HUIITO¹BUSSYERU¹HURAN¹HEKUTAARU¹PESO¹PENIHI¹HERUTU¹PENSU¹PEEZI¹BEETA¹POINTO",
    "¹BORUTO¹HON¹PONDO¹HOORU¹HOON¹MAIKURO¹MAIRU¹MAHHA¹MARUKU¹MANSYON¹MIKURON¹MIRI¹MIRIBAARU",
    "¹MEGA¹MEGATON¹MEETORU¹YAADO¹YAARU¹YUAN¹RITTORU¹RIRA¹RUPII¹RUUBURU¹REMU¹RENTOGEN¹WATTO",
    "⁰IDEOGRAPHIC TELEGRAPH SYMBOL FOR HOUR ZERO⁵ONE⁵TWO⁵THREE⁵FOUR⁵FIVE⁵SIX⁵SEVEN⁵EIGHT⁵NINE",
    "⁵TEN⁵ELEVEN⁵TWELVE⁵THIRTEEN⁵FOURTEEN⁵FIFTEEN⁵SIXTEEN⁵SEVENTEEN⁵EIGHTEEN⁵NINETEEN⁵TWENTY",
    "⁵TWENTY-ONE⁵TWENTY-TWO⁵TWENTY-THREE⁵TWENTY-FOUR⁰SQUARE HPA¹DA¹AU¹BAR¹OV¹PC¹DM²SQUARED",
    "²CUBED¹IU¹ERA NAME HEISEI³SYOUWA³TAISYOU³MEIZI¹CORPORATION¹PA AMPS¹NA¹MU A¹MA¹KA¹KB¹MB",
    "¹GB¹CAL¹KCAL¹PF¹NF¹MU F²G¹MG¹KG¹HZ¹KHZ¹MHZ¹GHZ¹THZ¹MU L¹ML¹DL¹KL¹FM¹NM¹MU M¹MM¹CM¹KM",
    "¹MM SQUARED¹CM SQUARED¹M SQUARED¹KM SQUARED¹MM CUBED¹CM CUBED¹M CUBED¹KM CUBED¹M OVER S",
    "⁴SQUARED¹PA¹KPA¹MPA¹GPA¹RAD²OVER S⁴SQUARED¹PS¹NS¹MU S¹MS¹PV¹NV¹MU V¹MV¹KV¹MV MEGA¹PW¹NW",
    "¹MU W¹MW¹KW¹MW MEGA¹K OHM¹M OHM¹AM¹BQ¹CC¹CD¹C OVER KG¹CO¹DB¹GY¹HA¹HP¹IN¹KK¹KM CAPITAL¹KT",
    "¹LM¹LN¹LOG¹LX¹MB SMALL¹MIL¹MOL¹PH¹PM¹PPM¹PR¹SR¹SV¹WB¹V OVER M¹A OVER M",
    "⁰IDEOGRAPHIC TELEGRAPH SYMBOL FOR DAY ONE⁵TWO⁵THREE⁵FOUR⁵FIVE⁵SIX⁵SEVEN⁵EIGHT⁵NINE⁵TEN",
    "⁵ELEVEN⁵TWELVE⁵THIRTEEN⁵FOURTEEN⁵FIFTEEN⁵SIXTEEN⁵SEVENTEEN⁵EIGHTEEN⁵NINETEEN⁵TWENTY",
    "⁵TWENTY-ONE⁵TWENTY-TWO⁵TWENTY-THREE⁵TWENTY-FOUR⁵TWENTY-FIVE⁵TWENTY-SIX⁵TWENTY-SEVEN",
    "⁵TWENTY-EIGHT⁵TWENTY-NINE⁵THIRTY⁵THIRTY-ONE⁰SQUARE GAL"]⟩,
  ⟨0x4dc0, [
    "⁰HEXAGRAM FOR THE CREATIVE HEAVEN³RECEPTIVE EARTH²DIFFICULTY AT THE BEGINNING",
    "²YOUTHFUL FOLLY²WAITING²CONFLICT²THE ARMY²HOLDING TOGETHER²SMALL TAMING²TREADING²PEACE",
    "²STANDSTILL²FELLOWSHIP²GREAT POSSESSION²MODESTY²ENTHUSIASM²FOLLOWING²WORK ON THE DECAYED",
    "²APPROACH²CONTEMPLATION²BITING THROUGH²GRACE²SPLITTING APART²RETURN²INNOCENCE",
    "²GREAT TAMING²MOUTH CORNERS²GREAT PREPONDERANCE²THE ABYSMAL WATER³CLINGING FIRE",
    "²INFLUENCE²DURATION²RETREAT²GREAT POWER²PROGRESS²DARKENING OF THE LIGHT²THE FAMILY",
    "²OPPOSITION²OBSTRUCTION²DELIVERANCE²DECREASE²INCREASE²BREAKTHROUGH²COMING TO MEET",
    "²GATHERING TOGETHER²PUSHING UPWARD²OPPRESSION²THE WELL²REVOLUTION²THE CAULDRON",
    "³AROUSING THUNDER³KEEPING STILL MOUNTAIN²DEVELOPMENT²THE MARRYING MAIDEN²ABUNDANCE",
    "²THE WANDERER³GENTLE WIND³JOYOUS LAKE²DISPERSION²LIMITATION²INNER TRUTH",
    "²SMALL PREPONDERANCE²AFTER COMPLETION²BEFORE COMPLETION"]⟩]

end BlockLang.CharName
