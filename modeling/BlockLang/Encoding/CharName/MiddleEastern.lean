import BlockLang.Encoding.CharName.Basic

/-! # Names of Middle Eastern characters -/

namespace BlockLang.CharName

/-- The names of the scripts of the Middle East. -/
def middleEastern : List Run := [
  ⟨0x0591, [
    "⁰HEBREW ACCENT ETNAHTA²SEGOL²SHALSHELET²ZAQEF QATAN³GADOL²TIPEHA²REVIA²ZARQA²PASHTA",
    "²YETIV²TEVIR²GERESH³MUQDAM²GERSHAYIM²QARNEY PARA²TELISHA GEDOLA²PAZER²ATNAH HAFUKH²MUNAH",
    "²MAHAPAKH²MERKHA³KEFULA²DARGA²QADMA²TELISHA QETANA²YERAH BEN YOMO²OLE²ILUY²DEHI²ZINOR",
    "¹MARK MASORA CIRCLE¹POINT SHEVA²HATAF SEGOL³PATAH³QAMATS²HIRIQ²TSERE²SEGOL²PATAH²QAMATS",
    "²HOLAM³HASER FOR VAV²QUBUTS²DAGESH OR MAPIQ²METEG¹PUNCTUATION MAQAF¹POINT RAFE",
    "¹PUNCTUATION PASEQ¹POINT SHIN DOT²SIN DOT¹PUNCTUATION SOF PASUQ¹MARK UPPER DOT²LOWER DOT",
    "¹PUNCTUATION NUN HAFUKHA¹POINT QAMATS QATAN"]⟩,
  ⟨0x05d0, [
    "⁰HEBREW LETTER ALEF²BET²GIMEL²DALET²HE²VAV²ZAYIN²HET²TET²YOD²FINAL KAF²KAF²LAMED",
    "²FINAL MEM²MEM²FINAL NUN²NUN²SAMEKH²AYIN²FINAL PE²PE²FINAL TSADI²TSADI²QOF²RESH²SHIN²TAV"]⟩,
  ⟨0x05ef, [
    "⁰HEBREW YOD TRIANGLE¹LIGATURE YIDDISH DOUBLE VAV³VAV YOD³DOUBLE YOD¹PUNCTUATION GERESH",
    "²GERSHAYIM"]⟩,
  ⟨0x0600, [
    "⁰ARABIC NUMBER SIGN¹SIGN SANAH¹FOOTNOTE MARKER¹SIGN SAFHA²SAMVAT¹NUMBER MARK ABOVE",
    "⁰ARABIC-INDIC CUBE ROOT¹FOURTH ROOT⁰ARABIC RAY⁰ARABIC-INDIC PER MILLE SIGN",
    "²TEN THOUSAND SIGN⁰AFGHANI SIGN⁰ARABIC COMMA¹DATE SEPARATOR¹POETIC VERSE SIGN¹SIGN MISRA",
    "²SALLALLAHOU ALAYHE WASSALLAM²ALAYHE ASSALLAM²RAHMATULLAH ALAYHE²RADI ALLAHOU ANHU",
    "²TAKHALLUS¹SMALL HIGH TAH³LIGATURE ALEF WITH LAM WITH YEH³ZAIN²FATHA²DAMMA²KASRA",
    "¹SEMICOLON¹LETTER MARK¹END OF TEXT MARK¹TRIPLE DOT PUNCTUATION MARK¹QUESTION MARK",
    "¹LETTER KASHMIRI YEH²HAMZA²ALEF WITH MADDA ABOVE⁴HAMZA ABOVE²WAW WITH HAMZA ABOVE",
    "²ALEF WITH HAMZA BELOW²YEH WITH HAMZA ABOVE²ALEF²BEH²TEH MARBUTA²TEH²THEH²JEEM²HAH²KHAH",
    "²DAL²THAL²REH²ZAIN²SEEN²SHEEN²SAD²DAD²TAH²ZAH²AIN²GHAIN²KEHEH WITH TWO DOTS ABOVE",
    "⁴THREE DOTS BELOW²FARSI YEH WITH INVERTED V⁵TWO DOTS ABOVE⁵THREE DOTS ABOVE¹TATWEEL",
    "¹LETTER FEH²QAF²KAF²LAM²MEEM²NOON²HEH²WAW²ALEF MAKSURA²YEH¹FATHATAN¹DAMMATAN¹KASRATAN",
    "¹FATHA¹DAMMA¹KASRA¹SHADDA¹SUKUN¹MADDAH ABOVE¹HAMZA ABOVE²BELOW¹SUBSCRIPT ALEF",
    "¹INVERTED DAMMA¹MARK NOON GHUNNA¹ZWARAKAY¹VOWEL SIGN SMALL V ABOVE",
    "³INVERTED SMALL V ABOVE³DOT BELOW¹REVERSED DAMMA¹FATHA WITH TWO DOTS¹WAVY HAMZA BELOW",
    "⁰ARABIC-INDIC DIGIT ZERO²ONE²TWO²THREE²FOUR²FIVE²SIX²SEVEN²EIGHT²NINE",
    "⁰ARABIC PERCENT SIGN¹DECIMAL SEPARATOR¹THOUSANDS SEPARATOR¹FIVE POINTED STAR",
    "¹LETTER DOTLESS BEH³QAF²SUPERSCRIPT ALEF²ALEF WASLA³WITH WAVY HAMZA ABOVE⁶BELOW",
    "²HIGH HAMZA⁴ALEF⁴WAW²U WITH HAMZA ABOVE²HIGH HAMZA YEH²TTEH²TTEHEH²BEEH²TEH WITH RING",
    "⁴THREE DOTS ABOVE DOWNWARDS²PEH²TEHEH²BEHEH²HAH WITH HAMZA ABOVE⁴TWO DOTS VERTICAL ABOVE",
    "²NYEH²DYEH²HAH WITH THREE DOTS ABOVE²TCHEH²TCHEHEH²DDAL²DAL WITH RING⁴DOT BELOW",
    "⁶AND SMALL TAH²DAHAL²DDAHAL²DUL²DAL WITH THREE DOTS ABOVE DOWNWARDS⁴FOUR DOTS ABOVE²RREH",
    "²REH WITH SMALL V⁴RING⁴DOT BELOW⁴SMALL V BELOW⁴DOT BELOW AND DOT ABOVE⁴TWO DOTS ABOVE",
    "²JEH²REH WITH FOUR DOTS ABOVE²SEEN WITH DOT BELOW AND DOT ABOVE⁴THREE DOTS BELOW",
    "⁷AND THREE DOTS ABOVE²SAD WITH TWO DOTS BELOW⁴THREE DOTS ABOVE²TAH WITH THREE DOTS ABOVE",
    "²AIN WITH THREE DOTS ABOVE²DOTLESS FEH²FEH WITH DOT MOVED BELOW⁵BELOW²VEH",
    "²FEH WITH THREE DOTS BELOW²PEHEH²QAF WITH DOT ABOVE⁴THREE DOTS ABOVE²KEHEH²SWASH KAF",
    "²KAF WITH RING⁴DOT ABOVE²NG²KAF WITH THREE DOTS BELOW²GAF³WITH RING²NGOEH",
    "²GAF WITH TWO DOTS BELOW²GUEH²GAF WITH THREE DOTS ABOVE²LAM WITH SMALL V⁴DOT ABOVE",
    "⁴THREE DOTS ABOVE⁶BELOW²NOON WITH DOT BELOW³GHUNNA²RNOON²NOON WITH RING⁴THREE DOTS ABOVE",
    "²HEH DOACHASHMEE²TCHEH WITH DOT ABOVE²HEH WITH YEH ABOVE³GOAL⁴WITH HAMZA ABOVE",
    "²TEH MARBUTA GOAL²WAW WITH RING²KIRGHIZ OE²OE²U²YU²KIRGHIZ YU²WAW WITH TWO DOTS ABOVE²VE",
    "²FARSI YEH²YEH WITH TAIL⁴SMALL V²WAW WITH DOT ABOVE²E²YEH WITH THREE DOTS BELOW³BARREE",
    "⁴WITH HAMZA ABOVE¹FULL STOP¹LETTER AE¹SMALL HIGH LIGATURE SAD WITH LAM WITH ALEF MAKSURA",
    "⁴QAF WITH LAM WITH ALEF MAKSURA³MEEM INITIAL FORM³LAM ALEF³JEEM³THREE DOTS³SEEN",
    "¹END OF AYAH¹START OF RUB EL HIZB¹SMALL HIGH ROUNDED ZERO³UPRIGHT RECTANGULAR ZERO",
    "³DOTLESS HEAD OF KHAH³MEEM ISOLATED FORM²LOW SEEN²HIGH MADDA²WAW²YEH²HIGH YEH³NOON",
    "¹PLACE OF SAJDAH¹EMPTY CENTRE LOW STOP³HIGH STOP¹ROUNDED HIGH STOP WITH FILLED CENTRE",
    "¹SMALL LOW MEEM¹LETTER DAL WITH INVERTED V²REH WITH INVERTED V",
    "⁰EXTENDED ARABIC-INDIC DIGIT ZERO³ONE³TWO³THREE³FOUR³FIVE³SIX³SEVEN³EIGHT³NINE",
    "⁰ARABIC LETTER SHEEN WITH DOT BELOW²DAD WITH DOT BELOW²GHAIN WITH DOT BELOW",
    "¹SIGN SINDHI AMPERSAND³POSTPOSITION MEN¹LETTER HEH WITH INVERTED V",
    "⁰SYRIAC END OF PARAGRAPH¹SUPRALINEAR FULL STOP¹SUBLINEAR FULL STOP¹SUPRALINEAR COLON",
    "¹SUBLINEAR COLON¹HORIZONTAL COLON¹COLON SKEWED LEFT³RIGHT¹SUPRALINEAR COLON SKEWED LEFT",
    "¹SUBLINEAR COLON SKEWED RIGHT¹CONTRACTION¹HARKLEAN OBELUS²METOBELUS²ASTERISCUS"]⟩,
  ⟨0x070f, [
    "⁰SYRIAC ABBREVIATION MARK¹LETTER ALAPH²SUPERSCRIPT ALAPH²BETH²GAMAL³GARSHUNI²DALATH",
    "²DOTLESS DALATH RISH²HE²WAW²ZAIN²HETH²TETH³GARSHUNI²YUDH³HE²KAPH²LAMADH²MIM²NUN²SEMKATH",
    "²FINAL SEMKATH²E²PE²REVERSED PE²SADHE²QAPH²RISH²SHIN²TAW²PERSIAN BHETH³GHAMAL³DHALATH",
    "¹PTHAHA ABOVE²BELOW²DOTTED¹ZQAPHA ABOVE²BELOW²DOTTED¹RBASA ABOVE²BELOW",
    "¹DOTTED ZLAMA HORIZONTAL³ANGULAR¹HBASA ABOVE²BELOW¹HBASA-ESASA DOTTED¹ESASA ABOVE²BELOW",
    "¹RWAHA¹FEMININE DOT¹QUSHSHAYA¹RUKKAKHA¹TWO VERTICAL DOTS ABOVE⁴BELOW¹THREE DOTS ABOVE",
    "³BELOW¹OBLIQUE LINE ABOVE³BELOW¹MUSIC¹BARREKH"]⟩,
  ⟨0x074d, [
    "⁰SYRIAC LETTER SOGDIAN ZHAIN³KHAPH³FE",
    "⁰ARABIC LETTER BEH WITH THREE DOTS HORIZONTALLY BELOW⁴DOT BELOW AND THREE DOTS ABOVE",
    "⁴THREE DOTS POINTING UPWARDS BELOW⁹AND TWO DOTS ABOVE⁴TWO DOTS BELOW AND DOT ABOVE",
    "⁴INVERTED SMALL V BELOW⁴SMALL V²HAH WITH TWO DOTS ABOVE",
    "⁴THREE DOTS POINTING UPWARDS BELOW²DAL WITH TWO DOTS VERTICALLY BELOW AND SMALL TAH",
    "⁴INVERTED SMALL V BELOW²REH WITH STROKE²SEEN WITH FOUR DOTS ABOVE",
    "²AIN WITH TWO DOTS ABOVE⁴THREE DOTS POINTING DOWNWARDS ABOVE⁴TWO DOTS VERTICALLY ABOVE",
    "²FEH WITH TWO DOTS BELOW⁴THREE DOTS POINTING UPWARDS BELOW²KEHEH WITH DOT ABOVE",
    "⁴THREE DOTS ABOVE⁶POINTING UPWARDS BELOW²MEEM WITH DOT ABOVE⁵BELOW",
    "²NOON WITH TWO DOTS BELOW⁴SMALL TAH⁵V²LAM WITH BAR²REH WITH TWO DOTS VERTICALLY ABOVE",
    "⁴HAMZA ABOVE²SEEN WITH TWO DOTS VERTICALLY ABOVE²HAH WITH SMALL ARABIC LETTER TAH BELOW",
    "⁸AND TWO DOTS²SEEN WITH SMALL ARABIC LETTER TAH AND TWO DOTS",
    "²REH WITH SMALL ARABIC LETTER TAH AND TWO DOTS²HAH WITH SMALL ARABIC LETTER TAH ABOVE",
    "²ALEF WITH EXTENDED ARABIC-INDIC DIGIT TWO ABOVE⁷THREE ABOVE",
    "²FARSI YEH WITH EXTENDED ARABIC-INDIC DIGIT TWO ABOVE⁸THREE ABOVE⁸FOUR BELOW",
    "²WAW WITH EXTENDED ARABIC-INDIC DIGIT TWO ABOVE⁷THREE ABOVE",
    "²YEH BARREE WITH EXTENDED ARABIC-INDIC DIGIT TWO ABOVE⁸THREE ABOVE",
    "²HAH WITH EXTENDED ARABIC-INDIC DIGIT FOUR BELOW",
    "²SEEN WITH EXTENDED ARABIC-INDIC DIGIT FOUR ABOVE⁴INVERTED V²KAF WITH TWO DOTS ABOVE",
    "⁰THAANA LETTER HAA²SHAVIYANI²NOONU²RAA²BAA²LHAVIYANI²KAAFU²ALIFU²VAAVU²MEEMU²FAAFU",
    "²DHAALU²THAA²LAAMU²GAAFU²GNAVIYANI²SEENU²DAVIYANI²ZAVIYANI²TAVIYANI²YAA²PAVIYANI",
    "²JAVIYANI²CHAVIYANI²TTAA²HHAA²KHAA²THAALU²ZAA²SHEENU²SAADHU²DAADHU²TO²ZO²AINU²GHAINU",
    "²QAAFU²WAAVU¹ABAFILI¹AABAAFILI¹IBIFILI¹EEBEEFILI¹UBUFILI¹OOBOOFILI¹EBEFILI¹EYBEYFILI",
    "¹OBOFILI¹OABOAFILI¹SUKUN¹LETTER NAA"]⟩,
  ⟨0x07c0, [
    "⁰NKO DIGIT ZERO²ONE²TWO²THREE²FOUR²FIVE²SIX²SEVEN²EIGHT²NINE¹LETTER A²EE²I²E²U²OO²O",
    "²DAGBASINNA²N²BA²PA²TA²JA²CHA²DA²RA²RRA²SA²GBA²FA²KA²LA²NA WOLOSO²MA²NYA²NA²HA²WA²YA",
    "²NYA WOLOSO²JONA JA³CHA³RA¹COMBINING SHORT HIGH TONE³LOW TONE³RISING TONE",
    "²LONG DESCENDING TONE³HIGH TONE³LOW TONE³RISING TONE²NASALIZATION MARK²DOUBLE DOT ABOVE",
    "¹HIGH TONE APOSTROPHE¹LOW TONE APOSTROPHE¹SYMBOL OO DENNEN²GBAKURUNEN¹COMMA",
    "¹EXCLAMATION MARK¹LAJANYALAN"]⟩,
  ⟨0x07fd, [
    "⁰NKO DANTAYALAN¹DOROME SIGN¹TAMAN SIGN⁰SAMARITAN LETTER ALAF²BIT²GAMAN²DALAT²IY²BAA²ZEN",
    "²IT²TIT²YUT²KAAF²LABAT²MIM²NUN²SINGAAT²IN²FI²TSAADIY²QUF²RISH²SHAN²TAAF¹MARK IN²IN-ALAF",
    "²OCCLUSION²DAGESH¹MODIFIER LETTER EPENTHETIC YUT¹MARK EPENTHETIC YUT¹VOWEL SIGN LONG E³E",
    "³OVERLONG AA³LONG AA³AA³OVERLONG A³LONG A³A¹MODIFIER LETTER SHORT A¹VOWEL SIGN SHORT A",
    "³LONG U³U¹MODIFIER LETTER I¹VOWEL SIGN LONG I³I³O³SUKUN¹MARK NEQUDAA"]⟩,
  ⟨0x0830, [
    "⁰SAMARITAN PUNCTUATION NEQUDAA²AFSAAQ²ANGED²BAU²ATMAAU²SHIYYAALAA¹ABBREVIATION MARK",
    "¹PUNCTUATION MELODIC QITSA²ZIQAA²QITSA²ZAEF²TURU²ARKAANU²SOF MASHFAAT²ANNAAU"]⟩,
  ⟨0x0840, [
    "⁰MANDAIC LETTER HALQA²AB²AG²AD²AH²USHENNA²AZ²IT²ATT²AKSA²AK²AL²AM²AN²AS²IN²AP²ASZ²AQ²AR",
    "²ASH²AT²DUSHENNA²KAD²AIN¹AFFRICATION MARK¹VOCALIZATION MARK¹GEMINATION MARK"]⟩,
  ⟨0x085e, ["⁰MANDAIC PUNCTUATION"]⟩,
  ⟨0x0860, ["⁰SYRIAC LETTER MALAYALAM NGA³JA³NYA³TTA³NNA³NNNA³BHA³RA³LLA³LLLA³SSA"]⟩,
  ⟨0x0870, [
    "⁰ARABIC LETTER ALEF WITH ATTACHED FATHA⁵TOP RIGHT FATHA⁴RIGHT MIDDLE STROKE",
    "⁴LEFT MIDDLE STROKE⁴ATTACHED KASRA⁵BOTTOM RIGHT KASRA⁵ROUND DOT ABOVE⁵RIGHT ROUND DOT",
    "⁵LEFT ROUND DOT⁵ROUND DOT BELOW⁴DOT ABOVE⁴ATTACHED TOP RIGHT FATHA AND DOT ABOVE",
    "⁴RIGHT MIDDLE STROKE AND DOT ABOVE⁴ATTACHED BOTTOM RIGHT KASRA AND DOT ABOVE",
    "⁵TOP RIGHT FATHA AND LEFT RING⁴RIGHT MIDDLE STROKE AND LEFT RING",
    "⁴ATTACHED BOTTOM RIGHT KASRA AND LEFT RING⁵RIGHT HAMZA⁵LEFT HAMZA",
    "¹TATWEEL WITH OVERSTRUCK HAMZA⁴WAW³TWO DOTS BELOW¹LETTER THIN YEH¹BASELINE ROUND DOT",
    "¹RAISED ROUND DOT¹LETTER NOON WITH INVERTED SMALL V²HAH WITH INVERTED SMALL V BELOW",
    "²TAH WITH DOT BELOW⁴THREE DOTS BELOW²KEHEH WITH TWO DOTS VERTICALLY BELOW¹VERTICAL TAIL"]⟩,
  ⟨0x0890, ["⁰ARABIC POUND MARK ABOVE¹PIASTRE MARK ABOVE"]⟩,
  ⟨0x0898, [
    "⁰ARABIC SMALL HIGH WORD AL-JUZ²LOW WORD ISHMAAM⁴IMAALA⁴TASHEEL¹MADDA WAAJIB",
    "¹SUPERSCRIPT ALEF MOKHASSAS¹DOUBLED MADDA¹HALF MADDA OVER MADDA",
    "¹LETTER BEH WITH SMALL V BELOW⁴HAMZA ABOVE²JEEM WITH TWO DOTS ABOVE",
    "²TAH WITH TWO DOTS ABOVE²FEH WITH DOT BELOW AND THREE DOTS ABOVE²QAF WITH DOT BELOW",
    "²LAM WITH DOUBLE BAR²MEEM WITH THREE DOTS ABOVE²YEH WITH TWO DOTS BELOW AND HAMZA ABOVE",
    "⁸DOT ABOVE²REH WITH LOOP²WAW WITH DOT WITHIN²ROHINGYA YEH²LOW ALEF",
    "²DAL WITH THREE DOTS BELOW²SAD WITH THREE DOTS BELOW²GAF WITH INVERTED STROKE",
    "²STRAIGHT WAW²ZAIN WITH INVERTED V ABOVE²AIN WITH THREE DOTS BELOW²KAF WITH DOT BELOW",
    "²QAF WITH DOT BELOW AND NO DOTS ABOVE²BEH WITH SMALL MEEM ABOVE",
    "²PEH WITH SMALL MEEM ABOVE²TEH WITH SMALL TEH ABOVE²REH WITH SMALL NOON ABOVE",
    "²YEH WITH TWO DOTS BELOW AND SMALL NOON ABOVE²AFRICAN FEH³QAF³NOON²PEH WITH SMALL V",
    "²TEH WITH SMALL V²TTEH WITH SMALL V²TCHEH WITH SMALL V²KEHEH WITH SMALL V",
    "²GHAIN WITH THREE DOTS ABOVE²AFRICAN QAF WITH THREE DOTS ABOVE",
    "²JEEM WITH THREE DOTS ABOVE⁶BELOW²LAM WITH SMALL ARABIC LETTER TAH ABOVE²GRAF",
    "¹SMALL FARSI YEH²HIGH FARSI YEH³YEH BARREE WITH TWO DOTS BELOW³WORD SAH³ZAH",
    "¹LARGE ROUND DOT ABOVE⁴BELOW¹SUKUN BELOW¹LARGE CIRCLE BELOW",
    "²ROUND DOT INSIDE CIRCLE BELOW¹SMALL LOW WAW²HIGH WORD AR-RUB³SAD³AIN³QAF",
    "³NOON WITH KASRA²LOW NOON WITH KASRA²HIGH WORD ATH-THALATHA⁴AS-SAJDA⁴AN-NISF⁴SAKTA⁴QIF",
    "⁴WAQFA³FOOTNOTE MARKER³SIGN SAFHA¹DISPUTED END OF AYAH¹TURNED DAMMA BELOW¹CURLY FATHA",
    "²DAMMA²KASRA²FATHATAN²DAMMATAN²KASRATAN¹TONE ONE DOT ABOVE²TWO DOTS ABOVE²LOOP ABOVE",
    "²ONE DOT BELOW²TWO DOTS BELOW²LOOP BELOW¹OPEN FATHATAN²DAMMATAN²KASRATAN¹SMALL HIGH WAW",
    "¹FATHA WITH RING³DOT ABOVE¹KASRA WITH DOT BELOW¹LEFT ARROWHEAD ABOVE",
    "¹RIGHT ARROWHEAD ABOVE¹LEFT ARROWHEAD BELOW¹RIGHT ARROWHEAD BELOW",
    "¹DOUBLE RIGHT ARROWHEAD ABOVE⁵WITH DOT¹RIGHT ARROWHEAD ABOVE WITH DOT¹DAMMA WITH DOT",
    "¹MARK SIDEWAYS NOON GHUNNA"]⟩]

end BlockLang.CharName
