import BlockLang.Encoding.CharName.Basic

/-! # Names of Asian characters -/

namespace BlockLang.CharName

/-- The names of the scripts from Devanagari to Vedic, and of the phonetic extensions. -/
def asian : List Run := [
  ⟨0x0900, [
    "⁰DEVANAGARI SIGN INVERTED CANDRABINDU²CANDRABINDU²ANUSVARA²VISARGA¹LETTER SHORT A²A²AA²I",
    "²II²U²UU²VOCALIC R³L²CANDRA E²SHORT E²E²AI²CANDRA O²SHORT O²O²AU²KA²KHA²GA²GHA²NGA²CA",
    "²CHA²JA²JHA²NYA²TTA²TTHA²DDA²DDHA²NNA²TA²THA²DA²DHA²NA²NNNA²PA²PHA²BA²BHA²MA²YA²RA²RRA",
    "²LA²LLA²LLLA²VA²SHA²SSA²SA²HA¹VOWEL SIGN OE³OOE¹SIGN NUKTA²AVAGRAHA¹VOWEL SIGN AA³I³II³U",
    "³UU³VOCALIC R⁴RR³CANDRA E³SHORT E³E³AI³CANDRA O³SHORT O³O³AU¹SIGN VIRAMA",
    "¹VOWEL SIGN PRISHTHAMATRA E³AW¹OM¹STRESS SIGN UDATTA³ANUDATTA¹GRAVE ACCENT¹ACUTE ACCENT",
    "¹VOWEL SIGN CANDRA LONG E³UE³UUE¹LETTER QA²KHHA²GHHA²ZA²DDDHA²RHA²FA²YYA²VOCALIC RR³LL",
    "¹VOWEL SIGN VOCALIC L⁴LL¹DANDA¹DOUBLE DANDA¹DIGIT ZERO²ONE²TWO²THREE²FOUR²FIVE²SIX²SEVEN",
    "²EIGHT²NINE¹ABBREVIATION SIGN¹SIGN HIGH SPACING DOT¹LETTER CANDRA A²OE²OOE²AW²UE²UUE",
    "²MARWARI DDA²ZHA²HEAVY YA²GGA²JJA²GLOTTAL STOP²DDDA²BBA⁰BENGALI ANJI¹SIGN CANDRABINDU",
    "²ANUSVARA²VISARGA"]⟩,
  ⟨0x0985, ["⁰BENGALI LETTER A²AA²I²II²U²UU²VOCALIC R³L"]⟩,
  ⟨0x098f, ["⁰BENGALI LETTER E²AI"]⟩,
  ⟨0x0993, [
    "⁰BENGALI LETTER O²AU²KA²KHA²GA²GHA²NGA²CA²CHA²JA²JHA²NYA²TTA²TTHA²DDA²DDHA²NNA²TA²THA²DA",
    "²DHA²NA"]⟩,
  ⟨0x09aa, ["⁰BENGALI LETTER PA²PHA²BA²BHA²MA²YA²RA"]⟩,
  ⟨0x09b2, ["⁰BENGALI LETTER LA"]⟩,
  ⟨0x09b6, ["⁰BENGALI LETTER SHA²SSA²SA²HA"]⟩,
  ⟨0x09bc, ["⁰BENGALI SIGN NUKTA²AVAGRAHA¹VOWEL SIGN AA³I³II³U³UU³VOCALIC R⁴RR"]⟩,
  ⟨0x09c7, ["⁰BENGALI VOWEL SIGN E³AI"]⟩,
  ⟨0x09cb, ["⁰BENGALI VOWEL SIGN O³AU¹SIGN VIRAMA¹LETTER KHANDA TA"]⟩,
  ⟨0x09d7, ["⁰BENGALI AU LENGTH MARK"]⟩,
  ⟨0x09dc, ["⁰BENGALI LETTER RRA²RHA"]⟩,
  ⟨0x09df, ["⁰BENGALI LETTER YYA²VOCALIC RR³LL¹VOWEL SIGN VOCALIC L⁴LL"]⟩,
  ⟨0x09e6, [
    "⁰BENGALI DIGIT ZERO²ONE²TWO²THREE²FOUR²FIVE²SIX²SEVEN²EIGHT²NINE",
    "¹LETTER RA WITH MIDDLE DIAGONAL⁴LOWER DIAGONAL¹RUPEE MARK²SIGN¹CURRENCY NUMERATOR ONE",
    "³TWO³THREE³FOUR³ONE LESS THAN THE DENOMINATOR²DENOMINATOR SIXTEEN¹ISSHAR¹GANDA MARK",
    "¹LETTER VEDIC ANUSVARA¹ABBREVIATION SIGN¹SANDHI MARK"]⟩,
  ⟨0x0a01, ["⁰GURMUKHI SIGN ADAK BINDI²BINDI²VISARGA"]⟩,
  ⟨0x0a05, ["⁰GURMUKHI LETTER A²AA²I²II²U²UU"]⟩,
  ⟨0x0a0f, ["⁰GURMUKHI LETTER EE²AI"]⟩,
  ⟨0x0a13, [
    "⁰GURMUKHI LETTER OO²AU²KA²KHA²GA²GHA²NGA²CA²CHA²JA²JHA²NYA²TTA²TTHA²DDA²DDHA²NNA²TA²THA",
    "²DA²DHA²NA"]⟩,
  ⟨0x0a2a, ["⁰GURMUKHI LETTER PA²PHA²BA²BHA²MA²YA²RA"]⟩,
  ⟨0x0a32, ["⁰GURMUKHI LETTER LA²LLA"]⟩,
  ⟨0x0a35, ["⁰GURMUKHI LETTER VA²SHA"]⟩,
  ⟨0x0a38, ["⁰GURMUKHI LETTER SA²HA"]⟩,
  ⟨0x0a3c, ["⁰GURMUKHI SIGN NUKTA"]⟩,
  ⟨0x0a3e, ["⁰GURMUKHI VOWEL SIGN AA³I³II³U³UU"]⟩,
  ⟨0x0a47, ["⁰GURMUKHI VOWEL SIGN EE³AI"]⟩,
  ⟨0x0a4b, ["⁰GURMUKHI VOWEL SIGN OO³AU¹SIGN VIRAMA"]⟩,
  ⟨0x0a51, ["⁰GURMUKHI SIGN UDAAT"]⟩,
  ⟨0x0a59, ["⁰GURMUKHI LETTER KHHA²GHHA²ZA²RRA"]⟩,
  ⟨0x0a5e, ["⁰GURMUKHI LETTER FA"]⟩,
  ⟨0x0a66, [
    "⁰GURMUKHI DIGIT ZERO²ONE²TWO²THREE²FOUR²FIVE²SIX²SEVEN²EIGHT²NINE¹TIPPI¹ADDAK¹IRI¹URA",
    "¹EK ONKAR¹SIGN YAKASH¹ABBREVIATION SIGN"]⟩,
  ⟨0x0a81, ["⁰GUJARATI SIGN CANDRABINDU²ANUSVARA²VISARGA"]⟩,
  ⟨0x0a85, ["⁰GUJARATI LETTER A²AA²I²II²U²UU²VOCALIC R³L¹VOWEL CANDRA E"]⟩,
  ⟨0x0a8f, ["⁰GUJARATI LETTER E²AI¹VOWEL CANDRA O"]⟩,
  ⟨0x0a93, [
    "⁰GUJARATI LETTER O²AU²KA²KHA²GA²GHA²NGA²CA²CHA²JA²JHA²NYA²TTA²TTHA²DDA²DDHA²NNA²TA²THA",
    "²DA²DHA²NA"]⟩,
  ⟨0x0aaa, ["⁰GUJARATI LETTER PA²PHA²BA²BHA²MA²YA²RA"]⟩,
  ⟨0x0ab2, ["⁰GUJARATI LETTER LA²LLA"]⟩,
  ⟨0x0ab5, ["⁰GUJARATI LETTER VA²SHA²SSA²SA²HA"]⟩,
  ⟨0x0abc, ["⁰GUJARATI SIGN NUKTA²AVAGRAHA¹VOWEL SIGN AA³I³II³U³UU³VOCALIC R⁴RR³CANDRA E"]⟩,
  ⟨0x0ac7, ["⁰GUJARATI VOWEL SIGN E³AI³CANDRA O"]⟩,
  ⟨0x0acb, ["⁰GUJARATI VOWEL SIGN O³AU¹SIGN VIRAMA"]⟩,
  ⟨0x0ad0, ["⁰GUJARATI OM"]⟩,
  ⟨0x0ae0, ["⁰GUJARATI LETTER VOCALIC RR³LL¹VOWEL SIGN VOCALIC L⁴LL"]⟩,
  ⟨0x0ae6, [
    "⁰GUJARATI DIGIT ZERO²ONE²TWO²THREE²FOUR²FIVE²SIX²SEVEN²EIGHT²NINE¹ABBREVIATION SIGN",
    "¹RUPEE SIGN"]⟩,
  ⟨0x0af9, [
    "⁰GUJARATI LETTER ZHA¹SIGN SUKUN²SHADDA²MADDAH²THREE-DOT NUKTA ABOVE²CIRCLE NUKTA ABOVE",
    "²TWO-CIRCLE NUKTA ABOVE"]⟩,
  ⟨0x0b01, ["⁰ORIYA SIGN CANDRABINDU²ANUSVARA²VISARGA"]⟩,
  ⟨0x0b05, ["⁰ORIYA LETTER A²AA²I²II²U²UU²VOCALIC R³L"]⟩,
  ⟨0x0b0f, ["⁰ORIYA LETTER E²AI"]⟩,
  ⟨0x0b13, [
    "⁰ORIYA LETTER O²AU²KA²KHA²GA²GHA²NGA²CA²CHA²JA²JHA²NYA²TTA²TTHA²DDA²DDHA²NNA²TA²THA²DA",
    "²DHA²NA"]⟩,
  ⟨0x0b2a, ["⁰ORIYA LETTER PA²PHA²BA²BHA²MA²YA²RA"]⟩,
  ⟨0x0b32, ["⁰ORIYA LETTER LA²LLA"]⟩,
  ⟨0x0b35, ["⁰ORIYA LETTER VA²SHA²SSA²SA²HA"]⟩,
  ⟨0x0b3c, ["⁰ORIYA SIGN NUKTA²AVAGRAHA¹VOWEL SIGN AA³I³II³U³UU³VOCALIC R⁴RR"]⟩,
  ⟨0x0b47, ["⁰ORIYA VOWEL SIGN E³AI"]⟩,
  ⟨0x0b4b, ["⁰ORIYA VOWEL SIGN O³AU¹SIGN VIRAMA"]⟩,
  ⟨0x0b55, ["⁰ORIYA SIGN OVERLINE¹AI LENGTH MARK¹AU LENGTH MARK"]⟩,
  ⟨0x0b5c, ["⁰ORIYA LETTER RRA²RHA"]⟩,
  ⟨0x0b5f, ["⁰ORIYA LETTER YYA²VOCALIC RR³LL¹VOWEL SIGN VOCALIC L⁴LL"]⟩,
  ⟨0x0b66, [
    "⁰ORIYA DIGIT ZERO²ONE²TWO²THREE²FOUR²FIVE²SIX²SEVEN²EIGHT²NINE¹ISSHAR¹LETTER WA",
    "¹FRACTION ONE QUARTER³HALF²THREE QUARTERS²ONE SIXTEENTH³EIGHTH²THREE SIXTEENTHS"]⟩,
  ⟨0x0b82, ["⁰TAMIL SIGN ANUSVARA²VISARGA"]⟩,
  ⟨0x0b85, ["⁰TAMIL LETTER A²AA²I²II²U²UU"]⟩,
  ⟨0x0b8e, ["⁰TAMIL LETTER E²EE²AI"]⟩,
  ⟨0x0b92, ["⁰TAMIL LETTER O²OO²AU²KA"]⟩,
  ⟨0x0b99, ["⁰TAMIL LETTER NGA²CA"]⟩,
  ⟨0x0b9c, ["⁰TAMIL LETTER JA"]⟩,
  ⟨0x0b9e, ["⁰TAMIL LETTER NYA²TTA"]⟩,
  ⟨0x0ba3, ["⁰TAMIL LETTER NNA²TA"]⟩,
  ⟨0x0ba8, ["⁰TAMIL LETTER NA²NNNA²PA"]⟩,
  ⟨0x0bae, ["⁰TAMIL LETTER MA²YA²RA²RRA²LA²LLA²LLLA²VA²SHA²SSA²SA²HA"]⟩,
  ⟨0x0bbe, ["⁰TAMIL VOWEL SIGN AA³I³II³U³UU"]⟩,
  ⟨0x0bc6, ["⁰TAMIL VOWEL SIGN E³EE³AI"]⟩,
  ⟨0x0bca, ["⁰TAMIL VOWEL SIGN O³OO³AU¹SIGN VIRAMA"]⟩,
  ⟨0x0bd0, ["⁰TAMIL OM"]⟩,
  ⟨0x0bd7, ["⁰TAMIL AU LENGTH MARK"]⟩,
  ⟨0x0be6, [
    "⁰TAMIL DIGIT ZERO²ONE²TWO²THREE²FOUR²FIVE²SIX²SEVEN²EIGHT²NINE¹NUMBER TEN²ONE HUNDRED",
    "³THOUSAND¹DAY SIGN¹MONTH SIGN¹YEAR SIGN¹DEBIT SIGN¹CREDIT SIGN¹AS ABOVE SIGN¹RUPEE SIGN",
    "¹NUMBER SIGN"]⟩,
  ⟨0x0c00, [
    "⁰TELUGU SIGN COMBINING CANDRABINDU ABOVE²CANDRABINDU²ANUSVARA²VISARGA",
    "²COMBINING ANUSVARA ABOVE¹LETTER A²AA²I²II²U²UU²VOCALIC R³L"]⟩,
  ⟨0x0c0e, ["⁰TELUGU LETTER E²EE²AI"]⟩,
  ⟨0x0c12, [
    "⁰TELUGU LETTER O²OO²AU²KA²KHA²GA²GHA²NGA²CA²CHA²JA²JHA²NYA²TTA²TTHA²DDA²DDHA²NNA²TA²THA",
    "²DA²DHA²NA"]⟩,
  ⟨0x0c2a, ["⁰TELUGU LETTER PA²PHA²BA²BHA²MA²YA²RA²RRA²LA²LLA²LLLA²VA²SHA²SSA²SA²HA"]⟩,
  ⟨0x0c3c, ["⁰TELUGU SIGN NUKTA²AVAGRAHA¹VOWEL SIGN AA³I³II³U³UU³VOCALIC R⁴RR"]⟩,
  ⟨0x0c46, ["⁰TELUGU VOWEL SIGN E³EE³AI"]⟩,
  ⟨0x0c4a, ["⁰TELUGU VOWEL SIGN O³OO³AU¹SIGN VIRAMA"]⟩,
  ⟨0x0c55, ["⁰TELUGU LENGTH MARK¹AI LENGTH MARK"]⟩,
  ⟨0x0c58, ["⁰TELUGU LETTER TSA²DZA²RRRA"]⟩,
  ⟨0x0c5d, ["⁰TELUGU LETTER NAKAARA POLLU"]⟩,
  ⟨0x0c60, ["⁰TELUGU LETTER VOCALIC RR³LL¹VOWEL SIGN VOCALIC L⁴LL"]⟩,
  ⟨0x0c66, ["⁰TELUGU DIGIT ZERO²ONE²TWO²THREE²FOUR²FIVE²SIX²SEVEN²EIGHT²NINE"]⟩,
  ⟨0x0c77, [
    "⁰TELUGU SIGN SIDDHAM¹FRACTION DIGIT ZERO FOR ODD POWERS OF FOUR",
    "³ONE FOR ODD POWERS OF FOUR³TWO FOR ODD POWERS OF FOUR³THREE FOR ODD POWERS OF FOUR",
    "³ONE FOR EVEN POWERS OF FOUR³TWO FOR EVEN POWERS OF FOUR³THREE FOR EVEN POWERS OF FOUR",
    "¹SIGN TUUMU⁰KANNADA SIGN SPACING CANDRABINDU²CANDRABINDU²ANUSVARA²VISARGA²SIDDHAM",
    "¹LETTER A²AA²I²II²U²UU²VOCALIC R³L"]⟩,
  ⟨0x0c8e, ["⁰KANNADA LETTER E²EE²AI"]⟩,
  ⟨0x0c92, [
    "⁰KANNADA LETTER O²OO²AU²KA²KHA²GA²GHA²NGA²CA²CHA²JA²JHA²NYA²TTA²TTHA²DDA²DDHA²NNA²TA²THA",
    "²DA²DHA²NA"]⟩,
  ⟨0x0caa, ["⁰KANNADA LETTER PA²PHA²BA²BHA²MA²YA²RA²RRA²LA²LLA"]⟩,
  ⟨0x0cb5, ["⁰KANNADA LETTER VA²SHA²SSA²SA²HA"]⟩,
  ⟨0x0cbc, ["⁰KANNADA SIGN NUKTA²AVAGRAHA¹VOWEL SIGN AA³I³II³U³UU³VOCALIC R⁴RR"]⟩,
  ⟨0x0cc6, ["⁰KANNADA VOWEL SIGN E³EE³AI"]⟩,
  ⟨0x0cca, ["⁰KANNADA VOWEL SIGN O³OO³AU¹SIGN VIRAMA"]⟩,
  ⟨0x0cd5, ["⁰KANNADA LENGTH MARK¹AI LENGTH MARK"]⟩,
  ⟨0x0cdd, ["⁰KANNADA LETTER NAKAARA POLLU²FA"]⟩,
  ⟨0x0ce0, ["⁰KANNADA LETTER VOCALIC RR³LL¹VOWEL SIGN VOCALIC L⁴LL"]⟩,
  ⟨0x0ce6, ["⁰KANNADA DIGIT ZERO²ONE²TWO²THREE²FOUR²FIVE²SIX²SEVEN²EIGHT²NINE"]⟩,
  ⟨0x0cf1, ["⁰KANNADA SIGN JIHVAMULIYA²UPADHMANIYA"]⟩,
  ⟨0x0d00, [
    "⁰MALAYALAM SIGN COMBINING ANUSVARA ABOVE²CANDRABINDU²ANUSVARA²VISARGA",
    "¹LETTER VEDIC ANUSVARA²A²AA²I²II²U²UU²VOCALIC R³L"]⟩,
  ⟨0x0d0e, ["⁰MALAYALAM LETTER E²EE²AI"]⟩,
  ⟨0x0d12, [
    "⁰MALAYALAM LETTER O²OO²AU²KA²KHA²GA²GHA²NGA²CA²CHA²JA²JHA²NYA²TTA²TTHA²DDA²DDHA²NNA²TA",
    "²THA²DA²DHA²NA²NNNA²PA²PHA²BA²BHA²MA²YA²RA²RRA²LA²LLA²LLLA²VA²SHA²SSA²SA²HA²TTTA",
    "¹SIGN VERTICAL BAR VIRAMA²CIRCULAR VIRAMA²AVAGRAHA¹VOWEL SIGN AA³I³II³U³UU³VOCALIC R⁴RR"]⟩,
  ⟨0x0d46, ["⁰MALAYALAM VOWEL SIGN E³EE³AI"]⟩,
  ⟨0x0d4a, ["⁰MALAYALAM VOWEL SIGN O³OO³AU¹SIGN VIRAMA¹LETTER DOT REPH¹SIGN PARA"]⟩,
  ⟨0x0d54, [
    "⁰MALAYALAM LETTER CHILLU M³Y³LLL¹AU LENGTH MARK¹FRACTION ONE ONE-HUNDRED-AND-SIXTIETH",
    "³FORTIETH²THREE EIGHTIETHS²ONE TWENTIETH³TENTH²THREE TWENTIETHS²ONE FIFTH",
    "¹LETTER ARCHAIC II²VOCALIC RR³LL¹VOWEL SIGN VOCALIC L⁴LL"]⟩,
  ⟨0x0d66, [
    "⁰MALAYALAM DIGIT ZERO²ONE²TWO²THREE²FOUR²FIVE²SIX²SEVEN²EIGHT²NINE¹NUMBER TEN",
    "²ONE HUNDRED³THOUSAND¹FRACTION ONE QUARTER³HALF²THREE QUARTERS²ONE SIXTEENTH³EIGHTH",
    "²THREE SIXTEENTHS¹DATE MARK¹LETTER CHILLU NN³N³RR³L³LL³K"]⟩,
  ⟨0x0d81, ["⁰SINHALA SIGN CANDRABINDU²ANUSVARAYA²VISARGAYA"]⟩,
  ⟨0x0d85, [
    "⁰SINHALA LETTER AYANNA²AAYANNA²AEYANNA²AEEYANNA²IYANNA²IIYANNA²UYANNA²UUYANNA²IRUYANNA",
    "²IRUUYANNA²ILUYANNA²ILUUYANNA²EYANNA²EEYANNA²AIYANNA²OYANNA²OOYANNA²AUYANNA"]⟩,
  ⟨0x0d9a, [
    "⁰SINHALA LETTER ALPAPRAANA KAYANNA²MAHAAPRAANA KAYANNA²ALPAPRAANA GAYANNA",
    "²MAHAAPRAANA GAYANNA²KANTAJA NAASIKYAYA²SANYAKA GAYANNA²ALPAPRAANA CAYANNA",
    "²MAHAAPRAANA CAYANNA²ALPAPRAANA JAYANNA²MAHAAPRAANA JAYANNA²TAALUJA NAASIKYAYA",
    "³SANYOOGA NAAKSIKYAYA²SANYAKA JAYANNA²ALPAPRAANA TTAYANNA²MAHAAPRAANA TTAYANNA",
    "²ALPAPRAANA DDAYANNA²MAHAAPRAANA DDAYANNA²MUURDHAJA NAYANNA²SANYAKA DDAYANNA",
    "²ALPAPRAANA TAYANNA²MAHAAPRAANA TAYANNA²ALPAPRAANA DAYANNA²MAHAAPRAANA DAYANNA",
    "²DANTAJA NAYANNA"]⟩,
  ⟨0x0db3, [
    "⁰SINHALA LETTER SANYAKA DAYANNA²ALPAPRAANA PAYANNA²MAHAAPRAANA PAYANNA",
    "²ALPAPRAANA BAYANNA²MAHAAPRAANA BAYANNA²MAYANNA²AMBA BAYANNA²YAYANNA²RAYANNA"]⟩,
  ⟨0x0dbd, ["⁰SINHALA LETTER DANTAJA LAYANNA"]⟩,
  ⟨0x0dc0, [
    "⁰SINHALA LETTER VAYANNA²TAALUJA SAYANNA²MUURDHAJA SAYANNA²DANTAJA SAYANNA²HAYANNA",
    "²MUURDHAJA LAYANNA²FAYANNA"]⟩,
  ⟨0x0dca, ["⁰SINHALA SIGN AL-LAKUNA"]⟩,
  ⟨0x0dcf, [
    "⁰SINHALA VOWEL SIGN AELA-PILLA³KETTI AEDA-PILLA³DIGA AEDA-PILLA³KETTI IS-PILLA",
    "³DIGA IS-PILLA³KETTI PAA-PILLA"]⟩,
  ⟨0x0dd6, ["⁰SINHALA VOWEL SIGN DIGA PAA-PILLA"]⟩,
  ⟨0x0dd8, [
    "⁰SINHALA VOWEL SIGN GAETTA-PILLA³KOMBUVA³DIGA KOMBUVA³KOMBU DEKA³KOMBUVA HAA AELA-PILLA",
    "⁵DIGA AELA-PILLA⁵GAYANUKITTA³GAYANUKITTA"]⟩,
  ⟨0x0de6, ["⁰SINHALA LITH DIGIT ZERO³ONE³TWO³THREE³FOUR³FIVE³SIX³SEVEN³EIGHT³NINE"]⟩,
  ⟨0x0df2, ["⁰SINHALA VOWEL SIGN DIGA GAETTA-PILLA⁴GAYANUKITTA¹PUNCTUATION KUNDDALIYA"]⟩,
  ⟨0x0e01, [
    "⁰THAI CHARACTER KO KAI²KHO KHAI³KHUAT³KHWAI³KHON³RAKHANG²NGO NGU²CHO CHAN³CHING³CHANG",
    "²SO SO²CHO CHOE²YO YING²DO CHADA²TO PATAK²THO THAN³NANGMONTHO³PHUTHAO²NO NEN²DO DEK",
    "²TO TAO²THO THUNG³THAHAN³THONG²NO NU²BO BAIMAI²PO PLA²PHO PHUNG²FO FA²PHO PHAN²FO FAN",
    "²PHO SAMPHAO²MO MA²YO YAK²RO RUA²RU²LO LING²LU²WO WAEN²SO SALA³RUSI³SUA²HO HIP²LO CHULA",
    "²O ANG²HO NOKHUK²PAIYANNOI²SARA A²MAI HAN-AKAT²SARA AA³AM³I³II³UE³UEE³U³UU²PHINTHU"]⟩,
  ⟨0x0e3f, [
    "⁰THAI CURRENCY SYMBOL BAHT¹CHARACTER SARA E³AE³O³AI MAIMUAN⁴MAIMALAI²LAKKHANGYAO",
    "²MAIYAMOK²MAITAIKHU²MAI EK³THO³TRI³CHATTAWA²THANTHAKHAT²NIKHAHIT²YAMAKKAN²FONGMAN",
    "¹DIGIT ZERO²ONE²TWO²THREE²FOUR²FIVE²SIX²SEVEN²EIGHT²NINE¹CHARACTER ANGKHANKHU²KHOMUT"]⟩,
  ⟨0x0e81, ["⁰LAO LETTER KO²KHO SUNG"]⟩,
  ⟨0x0e84, ["⁰LAO LETTER KHO TAM"]⟩,
  ⟨0x0e86, ["⁰LAO LETTER PALI GHA²NGO²CO²PALI CHA²SO TAM"]⟩,
  ⟨0x0e8c, [
    "⁰LAO LETTER PALI JHA²NYO²PALI NYA³TTA³TTHA³DDA³DDHA³NNA²DO²TO²THO SUNG³TAM²PALI DHA²NO",
    "²BO²PO²PHO SUNG²FO TAM²PHO TAM²FO SUNG²PALI BHA²MO²YO²LO LING"]⟩,
  ⟨0x0ea5, ["⁰LAO LETTER LO LOOT"]⟩,
  ⟨0x0ea7, [
    "⁰LAO LETTER WO²SANSKRIT SHA³SSA²SO SUNG²HO SUNG²PALI LLA²O²HO TAM¹ELLIPSIS¹VOWEL SIGN A",
    "³MAI KAN³AA³AM³I³II³Y³YY³U³UU¹SIGN PALI VIRAMA¹VOWEL SIGN MAI KON¹SEMIVOWEL SIGN LO³NYO"]⟩,
  ⟨0x0ec0, ["⁰LAO VOWEL SIGN E³EI³O³AY³AI"]⟩,
  ⟨0x0ec6, ["⁰LAO KO LA"]⟩,
  ⟨0x0ec8, ["⁰LAO TONE MAI EK³THO³TI³CATAWA¹CANCELLATION MARK¹NIGGAHITA"]⟩,
  ⟨0x0ed0, ["⁰LAO DIGIT ZERO²ONE²TWO²THREE²FOUR²FIVE²SIX²SEVEN²EIGHT²NINE"]⟩,
  ⟨0x0edc, ["⁰LAO HO NO²MO¹LETTER KHMU GO³NYO"]⟩,
  ⟨0x0f00, [
    "⁰TIBETAN SYLLABLE OM¹MARK GTER YIG MGO TRUNCATED A⁵-UM RNAM BCAD MA⁶GTER TSHEG MA",
    "²INITIAL YIG MGO MDUN MA²CLOSING YIG MGO SGAB MA²CARET YIG MGO PHUR SHAD MA",
    "²YIG MGO TSHEG SHAD MA²SBRUL SHAD²BSKUR YIG MGO²BKA- SHOG YIG MGO²INTERSYLLABIC TSHEG",
    "²DELIMITER TSHEG BSTAR²SHAD²NYIS SHAD²TSHEG SHAD²NYIS TSHEG SHAD²RIN CHEN SPUNGS SHAD",
    "²RGYA GRAM SHAD²CARET -DZUD RTAGS ME LONG CAN²GTER TSHEG¹LOGOTYPE SIGN CHAD RTAGS",
    "³LHAG RTAGS¹ASTROLOGICAL SIGN SGRA GCAN -CHAR RTAGS³-KHYUD PA³SDONG TSHUGS",
    "¹SIGN RDEL DKAR GCIG⁴GNYIS⁴GSUM³NAG GCIG⁴GNYIS³DKAR RDEL NAG¹DIGIT ZERO²ONE²TWO²THREE",
    "²FOUR²FIVE²SIX²SEVEN²EIGHT²NINE²HALF ONE³TWO³THREE³FOUR³FIVE³SIX³SEVEN³EIGHT³NINE³ZERO",
    "¹MARK BSDUS RTAGS²NGAS BZUNG NYI ZLA²CARET -DZUD RTAGS BZHI MIG CAN",
    "²NGAS BZUNG SGOR RTAGS²CHE MGO²TSA -PHRU²GUG RTAGS GYON⁴GYAS²ANG KHANG GYON⁴GYAS",
    "¹SIGN YAR TSHES²MAR TSHES¹LETTER KA²KHA²GA²GHA²NGA²CA²CHA²JA"]⟩,
  ⟨0x0f49, [
    "⁰TIBETAN LETTER NYA²TTA²TTHA²DDA²DDHA²NNA²TA²THA²DA²DHA²NA²PA²PHA²BA²BHA²MA²TSA²TSHA²DZA",
    "²DZHA²WA²ZHA²ZA²-A²YA²RA²LA²SHA²SSA²SA²HA²A²KSSA²FIXED-FORM RA²KKA²RRA"]⟩,
  ⟨0x0f71, [
    "⁰TIBETAN VOWEL SIGN AA³I³II³U³UU³VOCALIC R⁴RR⁴L⁴LL³E³EE³O³OO¹SIGN RJES SU NGA RO",
    "²RNAM BCAD¹VOWEL SIGN REVERSED I⁴II¹SIGN NYI ZLA NAA DA²SNA LDAN¹MARK HALANTA²PALUTA",
    "¹SIGN LCI RTAGS²YANG RTAGS²LCE TSA CAN²MCHU CAN²GRU CAN RGYINGS³MED RGYINGS",
    "²INVERTED MCHU CAN¹SUBJOINED SIGN LCE TSA CAN³MCHU CAN³INVERTED MCHU CAN²LETTER KA³KHA",
    "³GA³GHA³NGA³CA³CHA³JA"]⟩,
  ⟨0x0f99, [
    "⁰TIBETAN SUBJOINED LETTER NYA³TTA³TTHA³DDA³DDHA³NNA³TA³THA³DA³DHA³NA³PA³PHA³BA³BHA³MA",
    "³TSA³TSHA³DZA³DZHA³WA³ZHA³ZA³-A³YA³RA³LA³SHA³SSA³SA³HA³A³KSSA³FIXED-FORM WA⁴YA⁴RA"]⟩,
  ⟨0x0fbe, [
    "⁰TIBETAN KU RU KHA⁴BZHI MIG CAN¹CANTILLATION SIGN HEAVY BEAT³LIGHT BEAT³CANG TE-U",
    "³SBUB -CHAL¹SYMBOL DRIL BU²RDO RJE²PADMA GDAN²RDO RJE RGYA GRAM²PHUR PA²NOR BU",
    "⁴NYIS -KHYIL⁴GSUM -KHYIL⁴BZHI -KHYIL"]⟩,
  ⟨0x0fce, [
    "⁰TIBETAN SIGN RDEL NAG RDEL DKAR⁴GSUM¹MARK BSKA- SHOG GI MGO RGYAN",
    "²MNYAM YIG GI MGO RGYAN²NYIS TSHEG²INITIAL BRDA RNYING YIG MGO MDUN MA",
    "²CLOSING BRDA RNYING YIG MGO SGAB MA⁰RIGHT-FACING SVASTI SIGN⁰LEFT-FACING SVASTI SIGN",
    "⁰RIGHT-FACING SVASTI SIGN WITH DOTS⁰LEFT-FACING SVASTI SIGN WITH DOTS",
    "⁰TIBETAN MARK LEADING MCHAN RTAGS²TRAILING MCHAN RTAGS"]⟩,
  ⟨0x1000, [
    "⁰MYANMAR LETTER KA²KHA²GA²GHA²NGA²CA²CHA²JA²JHA²NYA²NNYA²TTA²TTHA²DDA²DDHA²NNA²TA²THA²DA",
    "²DHA²NA²PA²PHA²BA²BHA²MA²YA²RA²LA²WA²SA²HA²LLA²A²SHAN A²I²II²U²UU²E²MON E²O²AU",
    "¹VOWEL SIGN TALL AA³AA³I³II³U³UU³E³AI³MON II⁴O³E ABOVE¹SIGN ANUSVARA²DOT BELOW²VISARGA",
    "²VIRAMA²ASAT¹CONSONANT SIGN MEDIAL YA⁴RA⁴WA⁴HA¹LETTER GREAT SA¹DIGIT ZERO²ONE²TWO²THREE",
    "²FOUR²FIVE²SIX²SEVEN²EIGHT²NINE¹SIGN LITTLE SECTION²SECTION¹SYMBOL LOCATIVE²COMPLETED",
    "²AFOREMENTIONED²GENITIVE¹LETTER SHA²SSA²VOCALIC R³RR³L³LL¹VOWEL SIGN VOCALIC R⁴RR⁴L⁴LL",
    "¹LETTER MON NGA³JHA³BBA³BBE¹CONSONANT SIGN MON MEDIAL NA⁵MA⁵LA¹LETTER SGAW KAREN SHA",
    "¹VOWEL SIGN SGAW KAREN EU¹TONE MARK SGAW KAREN HATHI⁵KE PHO¹LETTER WESTERN PWO KAREN THA",
    "⁵PWA¹VOWEL SIGN WESTERN PWO KAREN EU⁶UE¹SIGN WESTERN PWO KAREN TONE-1⁵TONE-2⁵TONE-3",
    "⁵TONE-4⁵TONE-5¹LETTER EASTERN PWO KAREN NNA⁵YWA⁵GHWA¹VOWEL SIGN GEBA KAREN I³KAYAH OE⁴U",
    "⁴EE¹LETTER SHAN KA³KHA³GA³CA³ZA³NYA³DA³NA³PHA³FA³BA³THA³HA¹CONSONANT SIGN SHAN MEDIAL WA",
    "¹VOWEL SIGN SHAN AA⁴E⁵ABOVE⁴FINAL Y¹SIGN SHAN TONE-2³TONE-3³TONE-5³TONE-6³COUNCIL TONE-2",
    "⁴TONE-3⁴EMPHATIC TONE¹LETTER RUMAI PALAUNG FA¹SIGN RUMAI PALAUNG TONE-5¹SHAN DIGIT ZERO",
    "³ONE³TWO³THREE³FOUR³FIVE³SIX³SEVEN³EIGHT³NINE¹SIGN KHAMTI TONE-1³TONE-3",
    "¹VOWEL SIGN AITON A⁴AI¹SYMBOL SHAN ONE³EXCLAMATION⁰GEORGIAN CAPITAL LETTER AN³BAN³GAN",
    "³DON³EN³VIN³ZEN³TAN³IN³KAN³LAS³MAN³NAR³ON³PAR³ZHAR³RAE³SAN³TAR³UN³PHAR³KHAR³GHAN³QAR",
    "³SHIN³CHIN³CAN³JIL³CIL³CHAR³XAN³JHAN³HAE³HE³HIE³WE³HAR³HOE"]⟩,
  ⟨0x10c7, ["⁰GEORGIAN CAPITAL LETTER YN"]⟩,
  ⟨0x10cd, ["⁰GEORGIAN CAPITAL LETTER AEN"]⟩,
  ⟨0x10d0, [
    "⁰GEORGIAN LETTER AN²BAN²GAN²DON²EN²VIN²ZEN²TAN²IN²KAN²LAS²MAN²NAR²ON²PAR²ZHAR²RAE²SAN",
    "²TAR²UN²PHAR²KHAR²GHAN²QAR²SHIN²CHIN²CAN²JIL²CIL²CHAR²XAN²JHAN²HAE²HE²HIE²WE²HAR²HOE²FI",
    "²YN²ELIFI²TURNED GAN²AIN¹PARAGRAPH SEPARATOR⁰MODIFIER LETTER GEORGIAN NAR",
    "⁰GEORGIAN LETTER AEN²HARD SIGN²LABIAL SIGN⁰HANGUL CHOSEONG KIYEOK²SSANGKIYEOK²NIEUN",
    "²TIKEUT²SSANGTIKEUT²RIEUL²MIEUM²PIEUP²SSANGPIEUP²SIOS²SSANGSIOS²IEUNG²CIEUC²SSANGCIEUC",
    "²CHIEUCH²KHIEUKH²THIEUTH²PHIEUPH²HIEUH²NIEUN-KIYEOK²SSANGNIEUN²NIEUN-TIKEUT²NIEUN-PIEUP",
    "²TIKEUT-KIYEOK²RIEUL-NIEUN²SSANGRIEUL²RIEUL-HIEUH²KAPYEOUNRIEUL²MIEUM-PIEUP",
    "²KAPYEOUNMIEUM²PIEUP-KIYEOK²PIEUP-NIEUN²PIEUP-TIKEUT²PIEUP-SIOS²PIEUP-SIOS-KIYEOK",
    "²PIEUP-SIOS-TIKEUT²PIEUP-SIOS-PIEUP²PIEUP-SSANGSIOS²PIEUP-SIOS-CIEUC²PIEUP-CIEUC",
    "²PIEUP-CHIEUCH²PIEUP-THIEUTH²PIEUP-PHIEUPH²KAPYEOUNPIEUP²KAPYEOUNSSANGPIEUP²SIOS-KIYEOK",
    "²SIOS-NIEUN²SIOS-TIKEUT²SIOS-RIEUL²SIOS-MIEUM²SIOS-PIEUP²SIOS-PIEUP-KIYEOK",
    "²SIOS-SSANGSIOS²SIOS-IEUNG²SIOS-CIEUC²SIOS-CHIEUCH²SIOS-KHIEUKH²SIOS-THIEUTH",
    "²SIOS-PHIEUPH²SIOS-HIEUH²CHITUEUMSIOS²CHITUEUMSSANGSIOS²CEONGCHIEUMSIOS",
    "²CEONGCHIEUMSSANGSIOS²PANSIOS²IEUNG-KIYEOK²IEUNG-TIKEUT²IEUNG-MIEUM²IEUNG-PIEUP",
    "²IEUNG-SIOS²IEUNG-PANSIOS²SSANGIEUNG²IEUNG-CIEUC²IEUNG-CHIEUCH²IEUNG-THIEUTH",
    "²IEUNG-PHIEUPH²YESIEUNG²CIEUC-IEUNG²CHITUEUMCIEUC²CHITUEUMSSANGCIEUC²CEONGCHIEUMCIEUC",
    "²CEONGCHIEUMSSANGCIEUC²CHIEUCH-KHIEUKH²CHIEUCH-HIEUH²CHITUEUMCHIEUCH²CEONGCHIEUMCHIEUCH",
    "²PHIEUPH-PIEUP²KAPYEOUNPHIEUPH²SSANGHIEUH²YEORINHIEUH²KIYEOK-TIKEUT²NIEUN-SIOS",
    "²NIEUN-CIEUC²NIEUN-HIEUH²TIKEUT-RIEUL²FILLER¹JUNGSEONG FILLER²A²AE²YA²YAE²EO²E²YEO²YE²O",
    "²WA²WAE²OE²YO²U²WEO²WE²WI²YU²EU²YI²I²A-O²A-U²YA-O²YA-YO²EO-O²EO-U²EO-EU²YEO-O²YEO-U²O-EO",
    "²O-E²O-YE²O-O²O-U²YO-YA²YO-YAE²YO-YEO²YO-O²YO-I²U-A²U-AE²U-EO-EU²U-YE²U-U²YU-A²YU-EO",
    "²YU-E²YU-YEO²YU-YE²YU-U²YU-I²EU-U²EU-EU²YI-U²I-A²I-YA²I-O²I-U²I-EU²I-ARAEA²ARAEA",
    "²ARAEA-EO²ARAEA-U²ARAEA-I²SSANGARAEA²A-EU²YA-U²YEO-YA²O-YA²O-YAE¹JONGSEONG KIYEOK",
    "²SSANGKIYEOK²KIYEOK-SIOS²NIEUN²NIEUN-CIEUC²NIEUN-HIEUH²TIKEUT²RIEUL²RIEUL-KIYEOK",
    "²RIEUL-MIEUM²RIEUL-PIEUP²RIEUL-SIOS²RIEUL-THIEUTH²RIEUL-PHIEUPH²RIEUL-HIEUH²MIEUM²PIEUP",
    "²PIEUP-SIOS²SIOS²SSANGSIOS²IEUNG²CIEUC²CHIEUCH²KHIEUKH²THIEUTH²PHIEUPH²HIEUH",
    "²KIYEOK-RIEUL²KIYEOK-SIOS-KIYEOK²NIEUN-KIYEOK²NIEUN-TIKEUT²NIEUN-SIOS²NIEUN-PANSIOS",
    "²NIEUN-THIEUTH²TIKEUT-KIYEOK²TIKEUT-RIEUL²RIEUL-KIYEOK-SIOS²RIEUL-NIEUN²RIEUL-TIKEUT",
    "²RIEUL-TIKEUT-HIEUH²SSANGRIEUL²RIEUL-MIEUM-KIYEOK²RIEUL-MIEUM-SIOS²RIEUL-PIEUP-SIOS",
    "²RIEUL-PIEUP-HIEUH²RIEUL-KAPYEOUNPIEUP²RIEUL-SSANGSIOS²RIEUL-PANSIOS²RIEUL-KHIEUKH",
    "²RIEUL-YEORINHIEUH²MIEUM-KIYEOK²MIEUM-RIEUL²MIEUM-PIEUP²MIEUM-SIOS²MIEUM-SSANGSIOS",
    "²MIEUM-PANSIOS²MIEUM-CHIEUCH²MIEUM-HIEUH²KAPYEOUNMIEUM²PIEUP-RIEUL²PIEUP-PHIEUPH",
    "²PIEUP-HIEUH²KAPYEOUNPIEUP²SIOS-KIYEOK²SIOS-TIKEUT²SIOS-RIEUL²SIOS-PIEUP²PANSIOS",
    "²IEUNG-KIYEOK²IEUNG-SSANGKIYEOK²SSANGIEUNG²IEUNG-KHIEUKH²YESIEUNG²YESIEUNG-SIOS",
    "²YESIEUNG-PANSIOS²PHIEUPH-PIEUP²KAPYEOUNPHIEUPH²HIEUH-NIEUN²HIEUH-RIEUL²HIEUH-MIEUM",
    "²HIEUH-PIEUP²YEORINHIEUH²KIYEOK-NIEUN²KIYEOK-PIEUP²KIYEOK-CHIEUCH²KIYEOK-KHIEUKH",
    "²KIYEOK-HIEUH²SSANGNIEUN⁰ETHIOPIC SYLLABLE HA²HU²HI²HAA²HEE²HE²HO²HOA²LA²LU²LI²LAA²LEE",
    "²LE²LO²LWA²HHA²HHU²HHI²HHAA²HHEE²HHE²HHO²HHWA²MA²MU²MI²MAA²MEE²ME²MO²MWA²SZA²SZU²SZI",
    "²SZAA²SZEE²SZE²SZO²SZWA²RA²RU²RI²RAA²REE²RE²RO²RWA²SA²SU²SI²SAA²SEE²SE²SO²SWA²SHA²SHU",
    "²SHI²SHAA²SHEE²SHE²SHO²SHWA²QA²QU²QI²QAA²QEE²QE²QO²QOA²QWA"]⟩,
  ⟨0x124a, ["⁰ETHIOPIC SYLLABLE QWI²QWAA²QWEE²QWE"]⟩,
  ⟨0x1250, ["⁰ETHIOPIC SYLLABLE QHA²QHU²QHI²QHAA²QHEE²QHE²QHO"]⟩,
  ⟨0x1258, ["⁰ETHIOPIC SYLLABLE QHWA"]⟩,
  ⟨0x125a, ["⁰ETHIOPIC SYLLABLE QHWI²QHWAA²QHWEE²QHWE"]⟩,
  ⟨0x1260, [
    "⁰ETHIOPIC SYLLABLE BA²BU²BI²BAA²BEE²BE²BO²BWA²VA²VU²VI²VAA²VEE²VE²VO²VWA²TA²TU²TI²TAA",
    "²TEE²TE²TO²TWA²CA²CU²CI²CAA²CEE²CE²CO²CWA²XA²XU²XI²XAA²XEE²XE²XO²XOA²XWA"]⟩,
  ⟨0x128a, ["⁰ETHIOPIC SYLLABLE XWI²XWAA²XWEE²XWE"]⟩,
  ⟨0x1290, [
    "⁰ETHIOPIC SYLLABLE NA²NU²NI²NAA²NEE²NE²NO²NWA²NYA²NYU²NYI²NYAA²NYEE²NYE²NYO²NYWA",
    "²GLOTTAL A³U³I³AA³EE³E³O³WA²KA²KU²KI²KAA²KEE²KE²KO²KOA²KWA"]⟩,
  ⟨0x12b2, ["⁰ETHIOPIC SYLLABLE KWI²KWAA²KWEE²KWE"]⟩,
  ⟨0x12b8, ["⁰ETHIOPIC SYLLABLE KXA²KXU²KXI²KXAA²KXEE²KXE²KXO"]⟩,
  ⟨0x12c0, ["⁰ETHIOPIC SYLLABLE KXWA"]⟩,
  ⟨0x12c2, ["⁰ETHIOPIC SYLLABLE KXWI²KXWAA²KXWEE²KXWE"]⟩,
  ⟨0x12c8, ["⁰ETHIOPIC SYLLABLE WA²WU²WI²WAA²WEE²WE²WO²WOA²PHARYNGEAL A³U³I³AA³EE³E³O"]⟩,
  ⟨0x12d8, [
    "⁰ETHIOPIC SYLLABLE ZA²ZU²ZI²ZAA²ZEE²ZE²ZO²ZWA²ZHA²ZHU²ZHI²ZHAA²ZHEE²ZHE²ZHO²ZHWA²YA²YU",
    "²YI²YAA²YEE²YE²YO²YOA²DA²DU²DI²DAA²DEE²DE²DO²DWA²DDA²DDU²DDI²DDAA²DDEE²DDE²DDO²DDWA²JA",
    "²JU²JI²JAA²JEE²JE²JO²JWA²GA²GU²GI²GAA²GEE²GE²GO²GOA²GWA"]⟩,
  ⟨0x1312, ["⁰ETHIOPIC SYLLABLE GWI²GWAA²GWEE²GWE"]⟩,
  ⟨0x1318, [
    "⁰ETHIOPIC SYLLABLE GGA²GGU²GGI²GGAA²GGEE²GGE²GGO²GGWAA²THA²THU²THI²THAA²THEE²THE²THO",
    "²THWA²CHA²CHU²CHI²CHAA²CHEE²CHE²CHO²CHWA²PHA²PHU²PHI²PHAA²PHEE²PHE²PHO²PHWA²TSA²TSU²TSI",
    "²TSAA²TSEE²TSE²TSO²TSWA²TZA²TZU²TZI²TZAA²TZEE²TZE²TZO²TZOA²FA²FU²FI²FAA²FEE²FE²FO²FWA²PA",
    "²PU²PI²PAA²PEE²PE²PO²PWA²RYA²MYA²FYA"]⟩,
  ⟨0x135d, [
    "⁰ETHIOPIC COMBINING GEMINATION AND VOWEL LENGTH MARK²VOWEL LENGTH MARK²GEMINATION MARK",
    "¹SECTION MARK¹WORDSPACE¹FULL STOP¹COMMA¹SEMICOLON¹COLON¹PREFACE COLON¹QUESTION MARK",
    "¹PARAGRAPH SEPARATOR¹DIGIT ONE²TWO²THREE²FOUR²FIVE²SIX²SEVEN²EIGHT²NINE¹NUMBER TEN",
    "²TWENTY²THIRTY²FORTY²FIFTY²SIXTY²SEVENTY²EIGHTY²NINETY²HUNDRED²TEN THOUSAND"]⟩,
  ⟨0x1380, [
    "⁰ETHIOPIC SYLLABLE SEBATBEIT MWA²MWI²MWEE²MWE²SEBATBEIT BWA²BWI²BWEE²BWE²SEBATBEIT FWA",
    "²FWI²FWEE²FWE²SEBATBEIT PWA²PWI²PWEE²PWE¹TONAL MARK YIZET³DERET³RIKRIK³SHORT RIKRIK",
    "³DIFAT³KENAT³CHIRET³HIDET³DERET-HIDET³KURT"]⟩,
  ⟨0x13a0, [
    "⁰CHEROKEE LETTER A²E²I²O²U²V²GA²KA²GE²GI²GO²GU²GV²HA²HE²HI²HO²HU²HV²LA²LE²LI²LO²LU²LV²MA",
    "²ME²MI²MO²MU²NA²HNA²NAH²NE²NI²NO²NU²NV²QUA²QUE²QUI²QUO²QUU²QUV²SA²S²SE²SI²SO²SU²SV²DA²TA",
    "²DE²TE²DI²TI²DO²DU²DV²DLA²TLA²TLE²TLI²TLO²TLU²TLV²TSA²TSE²TSI²TSO²TSU²TSV²WA²WE²WI²WO²WU",
    "²WV²YA²YE²YI²YO²YU²YV²MV"]⟩,
  ⟨0x13f8, ["⁰CHEROKEE SMALL LETTER YE³YI³YO³YU³YV³MV"]⟩,
  ⟨0x1400, [
    "⁰CANADIAN SYLLABICS HYPHEN²E²AAI²I²II²O²OO²Y-CREE OO²CARRIER EE³I²A²AA²WE²WEST-CREE WE",
    "²WI²WEST-CREE WI²WII²WEST-CREE WII²WO²WEST-CREE WO²WOO²WEST-CREE WOO²NASKAPI WOO²WA",
    "²WEST-CREE WA²WAA²WEST-CREE WAA²NASKAPI WAA²AI²Y-CREE W²GLOTTAL STOP²FINAL ACUTE³GRAVE",
    "³BOTTOM HALF RING³TOP HALF RING³RIGHT HALF RING³RING³DOUBLE ACUTE⁴SHORT VERTICAL STROKES",
    "³MIDDLE DOT³SHORT HORIZONTAL STROKE³PLUS³DOWN TACK²EN²IN²ON²AN²PE²PAAI²PI²PII²PO²POO",
    "²Y-CREE POO²CARRIER HEE³HI²PA²PAA²PWE²WEST-CREE PWE²PWI²WEST-CREE PWI²PWII",
    "²WEST-CREE PWII²PWO²WEST-CREE PWO²PWOO²WEST-CREE PWOO²PWA²WEST-CREE PWA²PWAA",
    "²WEST-CREE PWAA²Y-CREE PWAA²P²WEST-CREE P²CARRIER H²TE²TAAI²TI²TII²TO²TOO²Y-CREE TOO",
    "²CARRIER DEE³DI²TA²TAA²TWE²WEST-CREE TWE²TWI²WEST-CREE TWI²TWII²WEST-CREE TWII²TWO",
    "²WEST-CREE TWO²TWOO²WEST-CREE TWOO²TWA²WEST-CREE TWA²TWAA²WEST-CREE TWAA²NASKAPI TWAA²T",
    "²TTE²TTI²TTO²TTA²KE²KAAI²KI²KII²KO²KOO²Y-CREE KOO²KA²KAA²KWE²WEST-CREE KWE²KWI",
    "²WEST-CREE KWI²KWII²WEST-CREE KWII²KWO²WEST-CREE KWO²KWOO²WEST-CREE KWOO²KWA",
    "²WEST-CREE KWA²KWAA²WEST-CREE KWAA²NASKAPI KWAA²K²KW²SOUTH-SLAVEY KEH³KIH³KOH³KAH²CE",
    "²CAAI²CI²CII²CO²COO²Y-CREE COO²CA²CAA²CWE²WEST-CREE CWE²CWI²WEST-CREE CWI²CWII",
    "²WEST-CREE CWII²CWO²WEST-CREE CWO²CWOO²WEST-CREE CWOO²CWA²WEST-CREE CWA²CWAA",
    "²WEST-CREE CWAA²NASKAPI CWAA²C²SAYISI TH²ME²MAAI²MI²MII²MO²MOO²Y-CREE MOO²MA²MAA²MWE",
    "²WEST-CREE MWE²MWI²WEST-CREE MWI²MWII²WEST-CREE MWII²MWO²WEST-CREE MWO²MWOO",
    "²WEST-CREE MWOO²MWA²WEST-CREE MWA²MWAA²WEST-CREE MWAA²NASKAPI MWAA²M²WEST-CREE M²MH",
    "²ATHAPASCAN M²SAYISI M²NE²NAAI²NI²NII²NO²NOO²Y-CREE NOO²NA²NAA²NWE²WEST-CREE NWE²NWA",
    "²WEST-CREE NWA²NWAA²WEST-CREE NWAA²NASKAPI NWAA²N²CARRIER NG²NH²LE²LAAI²LI²LII²LO²LOO",
    "²Y-CREE LOO²LA²LAA²LWE²WEST-CREE LWE²LWI²WEST-CREE LWI²LWII²WEST-CREE LWII²LWO",
    "²WEST-CREE LWO²LWOO²WEST-CREE LWOO²LWA²WEST-CREE LWA²LWAA²WEST-CREE LWAA²L²WEST-CREE L",
    "²MEDIAL L²SE²SAAI²SI²SII²SO²SOO²Y-CREE SOO²SA²SAA²SWE²WEST-CREE SWE²SWI²WEST-CREE SWI",
    "²SWII²WEST-CREE SWII²SWO²WEST-CREE SWO²SWOO²WEST-CREE SWOO²SWA²WEST-CREE SWA²SWAA",
    "²WEST-CREE SWAA²NASKAPI SWAA²S²ATHAPASCAN S²SW²BLACKFOOT S²MOOSE-CREE SK²NASKAPI SKW³S-W",
    "³SPWA³STWA³SKWA³SCWA²SHE²SHI²SHII²SHO²SHOO²SHA²SHAA²SHWE²WEST-CREE SHWE²SHWI",
    "²WEST-CREE SHWI²SHWII²WEST-CREE SHWII²SHWO²WEST-CREE SHWO²SHWOO²WEST-CREE SHWOO²SHWA",
    "²WEST-CREE SHWA²SHWAA²WEST-CREE SHWAA²SH²YE²YAAI²YI²YII²YO²YOO²Y-CREE YOO²YA²YAA²YWE",
    "²WEST-CREE YWE²YWI²WEST-CREE YWI²YWII²WEST-CREE YWII²YWO²WEST-CREE YWO²YWOO",
    "²WEST-CREE YWOO²YWA²WEST-CREE YWA²YWAA²WEST-CREE YWAA²NASKAPI YWAA²Y²BIBLE-CREE Y",
    "²WEST-CREE Y²SAYISI YI²RE²R-CREE RE²WEST-CREE LE²RAAI²RI²RII²RO²ROO²WEST-CREE LO²RA²RAA",
    "²WEST-CREE LA²RWAA²WEST-CREE RWAA²R²WEST-CREE R²MEDIAL R²FE²FAAI²FI²FII²FO²FOO²FA²FAA",
    "²FWAA²WEST-CREE FWAA²F²THE²N-CREE THE²THI²N-CREE THI²THII²N-CREE THII²THO²THOO²THA²THAA",
    "²THWAA²WEST-CREE THWAA²TH²TTHE²TTHI²TTHO²TTHA²TTH²TYE²TYI²TYO²TYA²NUNAVIK HE³HI³HII³HO",
    "³HOO³HA³HAA³H²NUNAVUT H²HK²QAAI²QI²QII²QO²QOO²QA²QAA²Q²TLHE²TLHI²TLHO²TLHA²WEST-CREE RE",
    "³RI³RO³RA²NGAAI²NGI²NGII²NGO²NGOO²NGA²NGAA²NG²NNG²SAYISI SHE³SHI³SHO³SHA²WOODS-CREE THE",
    "³THI³THO³THA³TH²LHI²LHII²LHO²LHOO²LHA²LHAA²LH²TH-CREE THE³THI³THII³THO³THOO³THA³THAA³TH",
    "²AIVILIK B²BLACKFOOT E³I³O³A³WE³WI³WO³WA³NE³NI³NO³NA³KE³KI³KO³KA²SAYISI HE³HI³HO³HA",
    "²CARRIER GHU³GHO³GHE³GHEE³GHI³GHA³RU³RO³RE³REE³RI³RA³WU³WO³WE³WEE³WI³WA³HWU³HWO³HWE³HWEE",
    "³HWI³HWA³THU³THO³THE³THEE³THI³THA³TTU³TTO³TTE³TTEE³TTI³TTA³PU³PO³PE³PEE³PI³PA³P³GU³GO³GE",
    "³GEE³GI³GA³KHU³KHO³KHE³KHEE³KHI³KHA³KKU³KKO³KKE³KKEE³KKI³KKA³KK³NU³NO³NE³NEE³NI³NA³MU³MO",
    "³ME³MEE³MI³MA³YU³YO³YE³YEE³YI³YA³JU²SAYISI JU²CARRIER JO³JE³JEE³JI²SAYISI JI²CARRIER JA",
    "³JJU³JJO³JJE³JJEE³JJI³JJA³LU³LO³LE³LEE³LI³LA³DLU³DLO³DLE³DLEE³DLI³DLA³LHU³LHO³LHE³LHEE",
    "³LHI³LHA³TLHU³TLHO³TLHE³TLHEE³TLHI³TLHA³TLU³TLO³TLE³TLEE³TLI³TLA³ZU³ZO³ZE³ZEE³ZI³ZA³Z",
    "³INITIAL Z³DZU³DZO³DZE³DZEE³DZI³DZA³SU³SO³SE³SEE³SI³SA³SHU³SHO³SHE³SHEE³SHI³SHA³SH³TSU",
    "³TSO³TSE³TSEE³TSI³TSA³CHU³CHO³CHE³CHEE³CHI³CHA³TTSU³TTSO³TTSE³TTSEE³TTSI³TTSA²CHI SIGN",
    "²FULL STOP²QAI²NGAI²NNGI²NNGII²NNGO²NNGOO²NNGA²NNGAA²WOODS-CREE THWEE³THWI³THWII³THWO",
    "³THWOO³THWA³THWAA³FINAL TH²BLACKFOOT W⁰OGHAM SPACE MARK¹LETTER BEITH²LUIS²FEARN²SAIL",
    "²NION²UATH²DAIR²TINNE²COLL²CEIRT²MUIN²GORT²NGEADAL²STRAIF²RUIS²AILM²ONN²UR²EADHADH",
    "²IODHADH²EABHADH²OR²UILLEANN²IFIN²EAMHANCHOLL²PEITH¹FEATHER MARK¹REVERSED FEATHER MARK"]⟩,
  ⟨0x16a0, [
    "⁰RUNIC LETTER FEHU FEOH FE F²V²URUZ UR U²YR²Y²W²THURISAZ THURS THORN²ETH²ANSUZ A²OS O",
    "²AC A²AESC²LONG-BRANCH-OSS O²SHORT-TWIG-OSS O²O²OE²ON²RAIDO RAD REID R²KAUNA²CEN²KAUN K",
    "²G²ENG²GEBO GYFU G²GAR²WUNJO WYNN W²HAGLAZ H²HAEGL H²LONG-BRANCH-HAGALL H",
    "²SHORT-TWIG-HAGALL H²NAUDIZ NYD NAUD N²SHORT-TWIG-NAUD N²DOTTED-N²ISAZ IS ISS I²E",
    "²JERAN J²GER²LONG-BRANCH-AR AE²SHORT-TWIG-AR A²IWAZ EOH²PERTHO PEORTH P²ALGIZ EOLHX",
    "²SOWILO S²SIGEL LONG-BRANCH-SOL S²SHORT-TWIG-SOL S²C²Z²TIWAZ TIR TYR T²SHORT-TWIG-TYR T",
    "²D²BERKANAN BEORC BJARKAN B²SHORT-TWIG-BJARKAN B²DOTTED-P²OPEN-P²EHWAZ EH E²MANNAZ MAN M",
    "²LONG-BRANCH-MADR M²SHORT-TWIG-MADR M²LAUKAZ LAGU LOGR L²DOTTED-L²INGWAZ²ING",
    "²DAGAZ DAEG D²OTHALAN ETHEL O²EAR²IOR²CWEORTH²CALC²CEALC²STAN²LONG-BRANCH-YR",
    "²SHORT-TWIG-YR²ICELANDIC-YR²Q²X¹SINGLE PUNCTUATION¹MULTIPLE PUNCTUATION",
    "¹CROSS PUNCTUATION¹ARLAUG SYMBOL¹TVIMADUR SYMBOL¹BELGTHOR SYMBOL¹LETTER K²SH²OO",
    "²FRANKS CASKET OS⁴IS⁴EH⁴AC⁴AESC"]⟩,
  ⟨0x1700, [
    "⁰TAGALOG LETTER A²I²U²KA²GA²NGA²TA²DA²NA²PA²BA²MA²YA²RA²LA²WA²SA²HA¹VOWEL SIGN I³U",
    "¹SIGN VIRAMA²PAMUDPOD"]⟩,
  ⟨0x171f, [
    "⁰TAGALOG LETTER ARCHAIC RA⁰HANUNOO LETTER A²I²U²KA²GA²NGA²TA²DA²NA²PA²BA²MA²YA²RA²LA²WA",
    "²SA²HA¹VOWEL SIGN I³U¹SIGN PAMUDPOD⁰PHILIPPINE SINGLE PUNCTUATION¹DOUBLE PUNCTUATION"]⟩,
  ⟨0x1740, [
    "⁰BUHID LETTER A²I²U²KA²GA²NGA²TA²DA²NA²PA²BA²MA²YA²RA²LA²WA²SA²HA¹VOWEL SIGN I³U"]⟩,
  ⟨0x1760, ["⁰TAGBANWA LETTER A²I²U²KA²GA²NGA²TA²DA²NA²PA²BA²MA²YA"]⟩,
  ⟨0x176e, ["⁰TAGBANWA LETTER LA²WA²SA"]⟩,
  ⟨0x1772, ["⁰TAGBANWA VOWEL SIGN I³U"]⟩,
  ⟨0x1780, [
    "⁰KHMER LETTER KA²KHA²KO²KHO²NGO²CA²CHA²CO²CHO²NYO²DA²TTHA²DO²TTHO²NNO²TA²THA²TO²THO²NO",
    "²BA²PHA²PO²PHO²MO²YO²RO²LO²VO²SHA²SSO²SA²HA²LA²QA¹INDEPENDENT VOWEL QAQ³QAA³QI³QII³QU",
    "³QUK³QUU³QUUV³RY³RYY³LY³LYY³QE³QAI³QOO TYPE ONE⁵TWO³QAU¹VOWEL INHERENT AQ³AA²SIGN AA³I",
    "³II³Y³YY³U³UU³UA³OE³YA³IE³E³AE³AI³OO³AU¹SIGN NIKAHIT²REAHMUK²YUUKALEAPINTU²MUUSIKATOAN",
    "²TRIISAP²BANTOC²ROBAT²TOANDAKHIAT²KAKABAT²AHSDA²SAMYOK SANNYA²VIRIAM²COENG²BATHAMASAT",
    "²KHAN²BARIYOOSAN²CAMNUC PII KUUH²LEK TOO²BEYYAL²PHNAEK MUAN²KOOMUUT¹CURRENCY SYMBOL RIEL",
    "¹SIGN AVAKRAHASANYA²ATTHACAN"]⟩,
  ⟨0x17e0, ["⁰KHMER DIGIT ZERO²ONE²TWO²THREE²FOUR²FIVE²SIX²SEVEN²EIGHT²NINE"]⟩,
  ⟨0x17f0, [
    "⁰KHMER SYMBOL LEK ATTAK SON⁴MUOY⁴PII⁴BEI⁴BUON⁴PRAM⁴PRAM-MUOY⁴PRAM-PII⁴PRAM-BEI⁴PRAM-BUON"]⟩,
  ⟨0x1800, [
    "⁰MONGOLIAN BIRGA¹ELLIPSIS¹COMMA¹FULL STOP¹COLON¹FOUR DOTS¹TODO SOFT HYPHEN",
    "¹SIBE SYLLABLE BOUNDARY MARKER¹MANCHU COMMA²FULL STOP¹NIRUGU¹FREE VARIATION SELECTOR ONE",
    "⁴TWO⁴THREE¹VOWEL SEPARATOR¹FREE VARIATION SELECTOR FOUR¹DIGIT ZERO²ONE²TWO²THREE²FOUR",
    "²FIVE²SIX²SEVEN²EIGHT²NINE"]⟩,
  ⟨0x1820, [
    "⁰MONGOLIAN LETTER A²E²I²O²U²OE²UE²EE²NA²ANG²BA²PA²QA²GA²MA²LA²SA²SHA²TA²DA²CHA²JA²YA²RA",
    "²WA²FA²KA²KHA²TSA²ZA²HAA²ZRA²LHA²ZHI²CHI²TODO LONG VOWEL SIGN³E³I³O³U³OE³UE³ANG³BA³PA³QA",
    "³GA³MA³TA³DA³CHA³JA³TSA³YA³WA³KA³GAA³HAA³JIA³NIA³DZA²SIBE E³I³IY³UE³U³ANG³KA³GA³HA³PA",
    "³SHA³TA³DA³JA³FA³GAA³HAA³TSA³ZA³RAA³CHA³ZHA²MANCHU I³KA³RA³FA³ZHA²CHA WITH TWO DOTS"]⟩,
  ⟨0x1880, [
    "⁰MONGOLIAN LETTER ALI GALI ANUSVARA ONE⁴VISARGA ONE⁴DAMARU⁴UBADAMA⁴INVERTED UBADAMA",
    "⁴BALUDA⁴THREE BALUDA⁴A⁴I⁴KA⁴NGA⁴CA⁴TTA⁴TTHA⁴DDA⁴NNA⁴TA⁴DA⁴PA⁴PHA⁴SSA⁴ZHA⁴ZA⁴AH",
    "²TODO ALI GALI TA⁵ZHA²MANCHU ALI GALI GHA⁵NGA⁵CA⁵JHA⁵TTA⁵DDHA⁵TA⁵DHA⁵SSA⁵CYA⁵ZHA⁵ZA",
    "²ALI GALI HALF U⁵YA²MANCHU ALI GALI BHA²ALI GALI DAGALGA²MANCHU ALI GALI LHA"]⟩,
  ⟨0x18b0, [
    "⁰CANADIAN SYLLABICS OY²AY²AAY²WAY²POY²PAY²PWOY²TAY²KAY²KWAY²MAY²NOY²NAY²LAY²SOY²SAY²SHOY",
    "²SHAY²SHWOY²YOY²YAY²RAY²NWI²OJIBWAY NWI²NWII²OJIBWAY NWII²NWO²OJIBWAY NWO²NWOO",
    "²OJIBWAY NWOO²RWEE²RWI²RWII²RWO²RWOO²RWA²OJIBWAY P³T³K³C³M³N³S³SH²EASTERN W²WESTERN W",
    "²FINAL SMALL RING³RAISED DOT²R-CREE RWE²WEST-CREE LOO³LAA²THWE²THWA²TTHWE²TTHOO²TTHAA",
    "²TLHWE²TLHOO²SAYISI SHWE³SHOO³HOO²CARRIER GWU³DENE GEE³GAA³GWA²SAYISI JUU²CARRIER JWA",
    "²BEAVER DENE L⁴R²CARRIER DENTAL S"]⟩,
  ⟨0x1900, [
    "⁰LIMBU VOWEL-CARRIER LETTER¹LETTER KA²KHA²GA²GHA²NGA²CA²CHA²JA²JHA²YAN²TA²THA²DA²DHA²NA",
    "²PA²PHA²BA²BHA²MA²YA²RA²LA²WA²SHA²SSA²SA²HA²GYAN²TRA"]⟩,
  ⟨0x1920, ["⁰LIMBU VOWEL SIGN A³I³U³EE³AI³OO³AU³E³O¹SUBJOINED LETTER YA³RA³WA"]⟩,
  ⟨0x1930, [
    "⁰LIMBU SMALL LETTER KA³NGA³ANUSVARA³TA³NA³PA³MA³RA³LA¹SIGN MUKPHRENG²KEMPHRENG²SA-I"]⟩,
  ⟨0x1940, ["⁰LIMBU SIGN LOO"]⟩,
  ⟨0x1944, [
    "⁰LIMBU EXCLAMATION MARK¹QUESTION MARK¹DIGIT ZERO²ONE²TWO²THREE²FOUR²FIVE²SIX²SEVEN²EIGHT",
    "²NINE⁰TAI LE LETTER KA³XA³NGA³TSA³SA³YA³TA³THA³LA³PA³PHA³MA³FA³VA³HA³QA³KHA³TSHA³NA³A³I",
    "³EE³EH³U³OO³O³UE³E³AUE³AI"]⟩,
  ⟨0x1970, ["⁰TAI LE LETTER TONE-2³TONE-3³TONE-4³TONE-5³TONE-6"]⟩,
  ⟨0x1980, [
    "⁰NEW TAI LUE LETTER HIGH QA⁴LOW QA⁴HIGH KA⁵XA⁵NGA⁴LOW KA⁵XA⁵NGA⁴HIGH TSA⁵SA⁵YA⁴LOW TSA",
    "⁵SA⁵YA⁴HIGH TA⁵THA⁵NA⁴LOW TA⁵THA⁵NA⁴HIGH PA⁵PHA⁵MA⁴LOW PA⁵PHA⁵MA⁴HIGH FA⁵VA⁵LA⁴LOW FA⁵VA",
    "⁵LA⁴HIGH HA⁵DA⁵BA⁴LOW HA⁵DA⁵BA⁴HIGH KVA⁵XVA⁴LOW KVA⁵XVA⁴HIGH SUA⁴LOW SUA"]⟩,
  ⟨0x19b0, [
    "⁰NEW TAI LUE VOWEL SIGN VOWEL SHORTENER⁵AA⁵II⁵U⁵UU⁵E⁵AE⁵O⁵OA⁵UE⁵AY⁵AAY⁵UY⁵OY⁵OAY⁵UEY⁵IY",
    "³LETTER FINAL V⁵NG⁵N⁵M⁵K⁵D⁵B³TONE MARK-1⁴MARK-2"]⟩,
  ⟨0x19d0, [
    "⁰NEW TAI LUE DIGIT ZERO⁴ONE⁴TWO⁴THREE⁴FOUR⁴FIVE⁴SIX⁴SEVEN⁴EIGHT⁴NINE³THAM DIGIT ONE"]⟩,
  ⟨0x19de, [
    "⁰NEW TAI LUE SIGN LAE⁴LAEV⁰KHMER SYMBOL PATHAMASAT²MUOY KOET²PII KOET²BEI KOET²BUON KOET",
    "²PRAM KOET²PRAM-MUOY KOET²PRAM-PII KOET²PRAM-BEI KOET²PRAM-BUON KOET²DAP KOET",
    "²DAP-MUOY KOET²DAP-PII KOET²DAP-BEI KOET²DAP-BUON KOET²DAP-PRAM KOET²TUTEYASAT²MUOY ROC",
    "²PII ROC²BEI ROC²BUON ROC²PRAM ROC²PRAM-MUOY ROC²PRAM-PII ROC²PRAM-BEI ROC²PRAM-BUON ROC",
    "²DAP ROC²DAP-MUOY ROC²DAP-PII ROC²DAP-BEI ROC²DAP-BUON ROC²DAP-PRAM ROC",
    "⁰BUGINESE LETTER KA²GA²NGA²NGKA²PA²BA²MA²MPA²TA²DA²NA²NRA²CA²JA²NYA²NYCA²YA²RA²LA²VA²SA",
    "²A²HA¹VOWEL SIGN I³U³E³O³AE"]⟩,
  ⟨0x1a1e, [
    "⁰BUGINESE PALLAWA¹END OF SECTION⁰TAI THAM LETTER HIGH KA⁴KHA⁴KXA³LOW KA⁴KXA⁴KHA³NGA",
    "³HIGH CA⁴CHA³LOW CA⁴SA⁴CHA³NYA³RATA³HIGH RATHA³DA³LOW RATHA³RANA³HIGH TA⁴THA³LOW TA⁴THA",
    "³NA³BA³HIGH PA⁴PHA⁴FA³LOW PA⁴FA⁴PHA³MA³LOW YA³HIGH YA³RA³RUE³LA³LUE³WA³HIGH SHA⁴SSA⁴SA",
    "⁴HA³LLA³A³LOW HA³I³II³U³UU³EE³OO³LAE³GREAT SA²CONSONANT SIGN MEDIAL RA⁵LA⁴LA TANG LAI",
    "²SIGN MAI KANG LAI²CONSONANT SIGN FINAL NGA⁴LOW PA⁴HIGH RATHA OR LOW PA⁴MA⁴BA⁴SA"]⟩,
  ⟨0x1a60, [
    "⁰TAI THAM SIGN SAKOT²VOWEL SIGN A⁴MAI SAT⁴AA⁴TALL AA⁴I⁴II⁴UE⁴UUE⁴U⁴UU⁴O⁴OA BELOW⁴OY⁴E⁴AE",
    "⁴OO⁴AI⁴THAM AI⁴OA ABOVE²SIGN MAI KANG³TONE-1³TONE-2³KHUEN TONE-3⁴TONE-4⁴TONE-5³RA HAAM",
    "³MAI SAM³KHUEN-LUE KARAN"]⟩,
  ⟨0x1a7f, [
    "⁰TAI THAM COMBINING CRYPTOGRAMMIC DOT²HORA DIGIT ZERO⁴ONE⁴TWO⁴THREE⁴FOUR⁴FIVE⁴SIX⁴SEVEN",
    "⁴EIGHT⁴NINE"]⟩,
  ⟨0x1a90, ["⁰TAI THAM THAM DIGIT ZERO⁴ONE⁴TWO⁴THREE⁴FOUR⁴FIVE⁴SIX⁴SEVEN⁴EIGHT⁴NINE"]⟩,
  ⟨0x1aa0, [
    "⁰TAI THAM SIGN WIANG³WIANGWAAK³SAWAN³KEOW³HOY³DOKMAI³REVERSED ROTATED RANA³MAI YAMOK",
    "³KAAN³KAANKUU³SATKAAN³SATKAANKUU³HANG³CAANG"]⟩,
  ⟨0x1ab0, [
    "⁰COMBINING DOUBLED CIRCUMFLEX ACCENT¹DIAERESIS-RING¹INFINITY¹DOWNWARDS ARROW¹TRIPLE DOT",
    "¹X-X BELOW¹WIGGLY LINE BELOW¹OPEN MARK BELOW¹DOUBLE OPEN MARK BELOW",
    "¹LIGHT CENTRALIZATION STROKE BELOW¹STRONG CENTRALIZATION STROKE BELOW¹PARENTHESES ABOVE",
    "¹DOUBLE PARENTHESES ABOVE¹PARENTHESES BELOW²OVERLAY¹LATIN SMALL LETTER W BELOW",
    "⁴TURNED W BELOW¹LEFT PARENTHESIS ABOVE LEFT¹RIGHT PARENTHESIS ABOVE RIGHT",
    "¹LEFT PARENTHESIS BELOW LEFT¹RIGHT PARENTHESIS BELOW RIGHT¹SQUARE BRACKETS ABOVE",
    "¹NUMBER SIGN ABOVE¹INVERTED DOUBLE ARCH ABOVE¹PLUS SIGN ABOVE¹DOUBLE PLUS SIGN ABOVE",
    "⁴BELOW¹TRIPLE ACUTE ACCENT¹LATIN SMALL LETTER INSULAR G⁵R⁵T"]⟩,
  ⟨0x1b00, [
    "⁰BALINESE SIGN ULU RICEM³CANDRA²CECEK²SURANG²BISAH¹LETTER AKARA³TEDUNG²IKARA³TEDUNG",
    "²UKARA³TEDUNG²RA REPA⁴TEDUNG²LA LENGA⁴TEDUNG²EKARA²AIKARA²OKARA³TEDUNG²KA³MAHAPRANA²GA",
    "³GORA²NGA²CA³LACA²JA³JERA²NYA²TA LATIK³MURDA MAHAPRANA²DA MURDA ALPAPRANA⁴MAHAPRANA",
    "²NA RAMBAT²TA³TAWA²DA³MADU²NA²PA³KAPAL²BA³KEMBANG²MA²YA²RA²LA²WA²SA SAGA³SAPA²SA²HA",
    "¹SIGN REREKAN¹VOWEL SIGN TEDUNG³ULU⁴SARI³SUKU⁴ILUT³RA REPA⁵TEDUNG³LA LENGA⁵TEDUNG³TALING",
    "⁴REPA⁴TEDUNG⁴REPA TEDUNG³PEPET⁴TEDUNG¹ADEG ADEG¹LETTER KAF SASAK²KHOT SASAK²TZIR SASAK",
    "²EF SASAK²VE SASAK²ZAL SASAK²ASYURA SASAK²ARCHAIC JNYA"]⟩,
  ⟨0x1b50, [
    "⁰BALINESE DIGIT ZERO²ONE²TWO²THREE²FOUR²FIVE²SIX²SEVEN²EIGHT²NINE¹PANTI¹PAMADA¹WINDU",
    "¹CARIK PAMUNGKAH²SIKI²PAREREN¹PAMENENG¹MUSICAL SYMBOL DONG³DENG³DUNG³DANG⁴SURANG³DING",
    "³DAENG³DEUNG³DAING³DANG GEDE³COMBINING TEGEH⁴ENDEP⁴KEMPUL⁴KEMPLI⁴JEGOGAN",
    "⁴KEMPUL WITH JEGOGAN⁴KEMPLI WITH JEGOGAN⁴BENDE⁴GONG³RIGHT-HAND OPEN DUG⁵DAG⁴CLOSED TUK",
    "⁵TAK³LEFT-HAND OPEN PANG⁵PUNG⁴CLOSED PLAK⁵PLUK⁴OPEN PING¹PANTI LANTANG¹PAMADA LANTANG"]⟩,
  ⟨0x1b80, [
    "⁰SUNDANESE SIGN PANYECEK²PANGLAYAR²PANGWISAD¹LETTER A²I²U²AE²O²E²EU²KA²QA²GA²NGA²CA²JA",
    "²ZA²NYA²TA²DA²NA²PA²FA²VA²BA²MA²YA²RA²LA²WA²SA²XA²HA¹CONSONANT SIGN PAMINGKAL³PANYAKRA",
    "³PANYIKU¹VOWEL SIGN PANGHULU³PANYUKU³PANAELAENG³PANOLONG³PAMEPET³PANEULEUNG¹SIGN PAMAAEH",
    "²VIRAMA¹CONSONANT SIGN PASANGAN MA⁴WA¹LETTER KHA²SYA¹DIGIT ZERO²ONE²TWO²THREE²FOUR²FIVE",
    "²SIX²SEVEN²EIGHT²NINE¹AVAGRAHA¹LETTER REU²LEU²BHA²FINAL K³M⁰BATAK LETTER A²SIMALUNGUN A",
    "²HA²SIMALUNGUN HA²MANDAILING HA²BA²KARO BA²PA²SIMALUNGUN PA²NA²MANDAILING NA²WA",
    "²SIMALUNGUN WA²PAKPAK WA²GA²SIMALUNGUN GA²JA²DA²RA²SIMALUNGUN RA²MA²SIMALUNGUN MA",
    "²SOUTHERN TA²NORTHERN TA²SA²SIMALUNGUN SA²MANDAILING SA²YA²SIMALUNGUN YA²NGA²LA",
    "²SIMALUNGUN LA²NYA²CA²NDA²MBA²I²U¹SIGN TOMPI¹VOWEL SIGN E³PAKPAK E³EE³I³KARO I³O³KARO O",
    "³U⁴FOR SIMALUNGUN SA¹CONSONANT SIGN NG³H¹PANGOLAT¹PANONGONAN"]⟩,
  ⟨0x1bfc, [
    "⁰BATAK SYMBOL BINDU NA METEK³PINARBORAS³JUDUL³PANGOLAT⁰LEPCHA LETTER KA²KLA²KHA²GA²GLA",
    "²NGA²CA²CHA²JA²NYA²TA²THA²DA²NA²PA²PLA²PHA²FA²FLA²BA²BLA²MA²MLA²TSA²TSHA²DZA²YA²RA²LA²HA",
    "²HLA²VA²SA²SHA²WA²A¹SUBJOINED LETTER YA³RA¹VOWEL SIGN AA³I³O³OO³U³UU³E¹CONSONANT SIGN K",
    "³M³L³N³P³R³T³NYIN-DO³KANG¹SIGN RAN²NUKTA"]⟩,
  ⟨0x1c3b, [
    "⁰LEPCHA PUNCTUATION TA-ROL²NYET THYOOM TA-ROL²CER-WA²TSHOOK CER-WA²TSHOOK¹DIGIT ZERO²ONE",
    "²TWO²THREE²FOUR²FIVE²SIX²SEVEN²EIGHT²NINE"]⟩,
  ⟨0x1c4d, [
    "⁰LEPCHA LETTER TTA²TTHA²DDA⁰OL CHIKI DIGIT ZERO³ONE³TWO³THREE³FOUR³FIVE³SIX³SEVEN³EIGHT",
    "³NINE²LETTER LA³AT³AG³ANG³AL³LAA³AAK³AAJ³AAM³AAW³LI³IS³IH³INY³IR³LU³UC³UD³UNN³UY³LE³EP",
    "³EDD³EN³ERR³LO³OTT³OB³OV³OH²MU TTUDDAG²GAAHLAA TTUDDAAG²MU-GAAHLAA TTUDDAAG²RELAA",
    "²PHAARKAA²AHAD²PUNCTUATION MUCAAD³DOUBLE MUCAAD⁰CYRILLIC SMALL LETTER ROUNDED VE",
    "³LONG-LEGGED DE³NARROW O³WIDE ES³TALL TE³THREE-LEGGED TE³TALL HARD SIGN⁴YAT³UNBLENDED UK"]⟩,
  ⟨0x1c90, [
    "⁰GEORGIAN MTAVRULI CAPITAL LETTER AN⁴BAN⁴GAN⁴DON⁴EN⁴VIN⁴ZEN⁴TAN⁴IN⁴KAN⁴LAS⁴MAN⁴NAR⁴ON",
    "⁴PAR⁴ZHAR⁴RAE⁴SAN⁴TAR⁴UN⁴PHAR⁴KHAR⁴GHAN⁴QAR⁴SHIN⁴CHIN⁴CAN⁴JIL⁴CIL⁴CHAR⁴XAN⁴JHAN⁴HAE⁴HE",
    "⁴HIE⁴WE⁴HAR⁴HOE⁴FI⁴YN⁴ELIFI⁴TURNED GAN⁴AIN"]⟩,
  ⟨0x1cbd, [
    "⁰GEORGIAN MTAVRULI CAPITAL LETTER AEN⁴HARD SIGN⁴LABIAL SIGN",
    "⁰SUNDANESE PUNCTUATION BINDU SURYA³PANGLONG³PURNAMA³CAKRA³LEU SATANGA³KA SATANGA",
    "³DA SATANGA³BA SATANGA"]⟩,
  ⟨0x1cd0, [
    "⁰VEDIC TONE KARSHANA²SHARA²PRENKHA¹SIGN NIHSHVASA²YAJURVEDIC MIDLINE SVARITA",
    "¹TONE YAJURVEDIC AGGRAVATED INDEPENDENT SVARITA³INDEPENDENT SVARITA",
    "³KATHAKA INDEPENDENT SVARITA²CANDRA BELOW",
    "²YAJURVEDIC KATHAKA INDEPENDENT SVARITA SCHROEDER²DOUBLE SVARITA²TRIPLE SVARITA",
    "²KATHAKA ANUDATTA²DOT BELOW²TWO DOTS BELOW²THREE DOTS BELOW",
    "²RIGVEDIC KASHMIRI INDEPENDENT SVARITA²ATHARVAVEDIC INDEPENDENT SVARITA",
    "¹SIGN VISARGA SVARITA³UDATTA²REVERSED VISARGA UDATTA²VISARGA ANUDATTA",
    "²REVERSED VISARGA ANUDATTA²VISARGA UDATTA WITH TAIL³ANUDATTA WITH TAIL",
    "²ANUSVARA ANTARGOMUKHA³BAHIRGOMUKHA³VAMAGOMUKHA⁴WITH TAIL²TIRYAK²HEXIFORM LONG ANUSVARA",
    "²LONG ANUSVARA²RTHANG LONG ANUSVARA²ANUSVARA UBHAYATO MUKHA²ARDHAVISARGA",
    "²ROTATED ARDHAVISARGA¹TONE CANDRA ABOVE¹SIGN JIHVAMULIYA²UPADHMANIYA²ATIKRAMA",
    "¹TONE RING ABOVE²DOUBLE RING ABOVE¹SIGN DOUBLE ANUSVARA ANTARGOMUKHA"]⟩,
  ⟨0x1d00, [
    "⁰LATIN LETTER SMALL CAPITAL A⁴AE¹SMALL LETTER TURNED AE¹LETTER SMALL CAPITAL BARRED B⁴C",
    "⁴D⁴ETH⁴E¹SMALL LETTER TURNED OPEN E⁴I¹LETTER SMALL CAPITAL J⁴K⁴L WITH STROKE⁴M",
    "⁴REVERSED N⁴O⁴OPEN O¹SMALL LETTER SIDEWAYS O⁴OPEN O⁴O WITH STROKE³TURNED OE",
    "¹LETTER SMALL CAPITAL OU¹SMALL LETTER TOP HALF O³BOTTOM HALF O¹LETTER SMALL CAPITAL P",
    "⁴REVERSED R⁴TURNED R⁴T⁴U¹SMALL LETTER SIDEWAYS U⁴DIAERESIZED U⁴TURNED M",
    "¹LETTER SMALL CAPITAL V⁴W⁴Z⁴EZH²VOICED LARYNGEAL SPIRANT²AIN",
    "⁰GREEK LETTER SMALL CAPITAL GAMMA⁴LAMDA⁴PI⁴RHO⁴PSI⁰CYRILLIC LETTER SMALL CAPITAL EL",
    "⁰MODIFIER LETTER CAPITAL A³AE³B³BARRED B³D³E³REVERSED E³G³H³I³J³K³L³M³N³REVERSED N³O³OU",
    "³P³R³T³U³W²SMALL A³TURNED A³ALPHA³TURNED AE³B³D³E³SCHWA³OPEN E³TURNED OPEN E³G³TURNED I",
    "³K³M³ENG³O³OPEN O³TOP HALF O³BOTTOM HALF O³P³T³U³SIDEWAYS U³TURNED M³V³AIN³BETA",
    "³GREEK GAMMA³DELTA³GREEK PHI³CHI⁰LATIN SUBSCRIPT SMALL LETTER I⁴R⁴U⁴V",
    "⁰GREEK SUBSCRIPT SMALL LETTER BETA⁴GAMMA⁴RHO⁴PHI⁴CHI⁰LATIN SMALL LETTER UE",
    "³B WITH MIDDLE TILDE³D WITH MIDDLE TILDE³F WITH MIDDLE TILDE³M WITH MIDDLE TILDE",
    "³N WITH MIDDLE TILDE³P WITH MIDDLE TILDE³R WITH MIDDLE TILDE⁵FISHHOOK AND MIDDLE TILDE",
    "³S WITH MIDDLE TILDE³T WITH MIDDLE TILDE³Z WITH MIDDLE TILDE³TURNED G",
    "⁰MODIFIER LETTER CYRILLIC EN⁰LATIN SMALL LETTER INSULAR G³TH WITH STRIKETHROUGH",
    "²CAPITAL LETTER I WITH STROKE²LETTER IOTA WITH STROKE³P WITH STROKE",
    "²CAPITAL LETTER U WITH STROKE²LETTER UPSILON WITH STROKE³B WITH PALATAL HOOK",
    "³D WITH PALATAL HOOK³F WITH PALATAL HOOK³G WITH PALATAL HOOK³K WITH PALATAL HOOK",
    "³L WITH PALATAL HOOK³M WITH PALATAL HOOK³N WITH PALATAL HOOK³P WITH PALATAL HOOK",
    "³R WITH PALATAL HOOK³S WITH PALATAL HOOK³ESH WITH PALATAL HOOK³V WITH PALATAL HOOK",
    "³X WITH PALATAL HOOK³Z WITH PALATAL HOOK³A WITH RETROFLEX HOOK³ALPHA WITH RETROFLEX HOOK",
    "³D WITH HOOK AND TAIL³E WITH RETROFLEX HOOK³OPEN E WITH RETROFLEX HOOK",
    "³REVERSED OPEN E WITH RETROFLEX HOOK³SCHWA WITH RETROFLEX HOOK³I WITH RETROFLEX HOOK",
    "³OPEN O WITH RETROFLEX HOOK³ESH WITH RETROFLEX HOOK³U WITH RETROFLEX HOOK",
    "³EZH WITH RETROFLEX HOOK⁰MODIFIER LETTER SMALL TURNED ALPHA³C⁴WITH CURL³ETH",
    "³REVERSED OPEN E³F³DOTLESS J WITH STROKE³SCRIPT G³TURNED H³I WITH STROKE³IOTA³CAPITAL I",
    "⁵WITH STROKE³J WITH CROSSED-TAIL³L WITH RETROFLEX HOOK⁵PALATAL HOOK³CAPITAL L",
    "³M WITH HOOK³TURNED M WITH LONG LEG³N WITH LEFT HOOK⁵RETROFLEX HOOK³CAPITAL N³BARRED O",
    "³PHI³S WITH HOOK³ESH³T WITH PALATAL HOOK³U BAR³UPSILON³CAPITAL U³V WITH HOOK³TURNED V³Z",
    "⁴WITH RETROFLEX HOOK⁵CURL³EZH³THETA⁰COMBINING DOTTED GRAVE ACCENT²ACUTE ACCENT",
    "¹SNAKE BELOW¹SUSPENSION MARK¹MACRON-ACUTE¹GRAVE-MACRON¹MACRON-GRAVE¹ACUTE-MACRON",
    "¹GRAVE-ACUTE-GRAVE¹ACUTE-GRAVE-ACUTE¹LATIN SMALL LETTER R BELOW¹BREVE-MACRON",
    "¹MACRON-BREVE¹DOUBLE CIRCUMFLEX ABOVE¹OGONEK ABOVE¹ZIGZAG BELOW¹IS BELOW¹UR ABOVE",
    "¹US ABOVE¹LATIN SMALL LETTER FLATTENED OPEN A ABOVE⁴AE⁴AO⁴AV⁴C CEDILLA⁴INSULAR D⁴ETH⁴G",
    "²LETTER SMALL CAPITAL G²SMALL LETTER K⁴L²LETTER SMALL CAPITAL L⁵M²SMALL LETTER N",
    "²LETTER SMALL CAPITAL N⁵R²SMALL LETTER R ROTUNDA⁴S⁴LONG S⁴Z⁴ALPHA⁴B⁴BETA⁴SCHWA⁴F",
    "⁴L WITH DOUBLE MIDDLE TILDE⁴O WITH LIGHT CENTRALIZATION STROKE⁴P⁴ESH",
    "⁴U WITH LIGHT CENTRALIZATION STROKE⁴W⁴A WITH DIAERESIS⁴O WITH DIAERESIS⁴U WITH DIAERESIS",
    "¹UP TACK ABOVE¹KAVYKA ABOVE RIGHT³LEFT¹DOT ABOVE LEFT¹WIDE INVERTED BRIDGE BELOW",
    "¹DOT BELOW LEFT¹DELETION MARK¹DOUBLE INVERTED BREVE BELOW¹ALMOST EQUAL TO BELOW",
    "¹LEFT ARROWHEAD ABOVE¹RIGHT ARROWHEAD AND DOWN ARROWHEAD BELOW"]⟩]

end BlockLang.CharName
