import BlockLang.Encoding.CharName.Basic

/-! # Names of presentation forms -/

namespace BlockLang.CharName

/-- The names of presentation forms, of half and full width forms and of specials. -/
def presentation : List Run := [
  ⟨0xfb00, ["⁰LATIN SMALL LIGATURE FF³FI³FL³FFI³FFL³LONG S T³ST"]⟩,
  ⟨0xfb13, ["⁰ARMENIAN SMALL LIGATURE MEN NOW⁴ECH⁴INI³VEW NOW³MEN XEH"]⟩,
  ⟨0xfb1d, [
    "⁰HEBREW LETTER YOD WITH HIRIQ¹POINT JUDEO-SPANISH VARIKA¹LIGATURE YIDDISH YOD YOD PATAH",
    "¹LETTER ALTERNATIVE AYIN²WIDE ALEF³DALET³HE³KAF³LAMED³FINAL MEM³RESH³TAV",
    "²ALTERNATIVE PLUS SIGN²SHIN WITH SHIN DOT⁴SIN DOT⁴DAGESH AND SHIN DOT⁶SIN DOT",
    "²ALEF WITH PATAH⁴QAMATS⁴MAPIQ²BET WITH DAGESH²GIMEL WITH DAGESH²DALET WITH DAGESH",
    "²HE WITH MAPIQ²VAV WITH DAGESH²ZAYIN WITH DAGESH"]⟩,
  ⟨0xfb38, [
    "⁰HEBREW LETTER TET WITH DAGESH²YOD WITH DAGESH²FINAL KAF WITH DAGESH²KAF WITH DAGESH",
    "²LAMED WITH DAGESH"]⟩,
  ⟨0xfb3e, ["⁰HEBREW LETTER MEM WITH DAGESH"]⟩,
  ⟨0xfb40, ["⁰HEBREW LETTER NUN WITH DAGESH²SAMEKH WITH DAGESH"]⟩,
  ⟨0xfb43, ["⁰HEBREW LETTER FINAL PE WITH DAGESH²PE WITH DAGESH"]⟩,
  ⟨0xfb46, [
    "⁰HEBREW LETTER TSADI WITH DAGESH²QOF WITH DAGESH²RESH WITH DAGESH²SHIN WITH DAGESH",
    "²TAV WITH DAGESH²VAV WITH HOLAM²BET WITH RAFE²KAF WITH RAFE²PE WITH RAFE",
    "¹LIGATURE ALEF LAMED⁰ARABIC LETTER ALEF WASLA ISOLATED FORM⁴FINAL FORM",
    "²BEEH ISOLATED FORM³FINAL FORM³INITIAL FORM³MEDIAL FORM²PEH ISOLATED FORM³FINAL FORM",
    "³INITIAL FORM³MEDIAL FORM²BEHEH ISOLATED FORM³FINAL FORM³INITIAL FORM³MEDIAL FORM",
    "²TTEHEH ISOLATED FORM³FINAL FORM³INITIAL FORM³MEDIAL FORM²TEHEH ISOLATED FORM³FINAL FORM",
    "³INITIAL FORM³MEDIAL FORM²TTEH ISOLATED FORM³FINAL FORM³INITIAL FORM³MEDIAL FORM",
    "²VEH ISOLATED FORM³FINAL FORM³INITIAL FORM³MEDIAL FORM²PEHEH ISOLATED FORM³FINAL FORM",
    "³INITIAL FORM³MEDIAL FORM²DYEH ISOLATED FORM³FINAL FORM³INITIAL FORM³MEDIAL FORM",
    "²NYEH ISOLATED FORM³FINAL FORM³INITIAL FORM³MEDIAL FORM²TCHEH ISOLATED FORM³FINAL FORM",
    "³INITIAL FORM³MEDIAL FORM²TCHEHEH ISOLATED FORM³FINAL FORM³INITIAL FORM³MEDIAL FORM",
    "²DDAHAL ISOLATED FORM³FINAL FORM²DAHAL ISOLATED FORM³FINAL FORM²DUL ISOLATED FORM",
    "³FINAL FORM²DDAL ISOLATED FORM³FINAL FORM²JEH ISOLATED FORM³FINAL FORM",
    "²RREH ISOLATED FORM³FINAL FORM²KEHEH ISOLATED FORM³FINAL FORM³INITIAL FORM³MEDIAL FORM",
    "²GAF ISOLATED FORM³FINAL FORM³INITIAL FORM³MEDIAL FORM²GUEH ISOLATED FORM³FINAL FORM",
    "³INITIAL FORM³MEDIAL FORM²NGOEH ISOLATED FORM³FINAL FORM³INITIAL FORM³MEDIAL FORM",
    "²NOON GHUNNA ISOLATED FORM⁴FINAL FORM²RNOON ISOLATED FORM³FINAL FORM³INITIAL FORM",
    "³MEDIAL FORM²HEH WITH YEH ABOVE ISOLATED FORM⁶FINAL FORM³GOAL ISOLATED FORM⁴FINAL FORM",
    "⁴INITIAL FORM⁴MEDIAL FORM³DOACHASHMEE ISOLATED FORM⁴FINAL FORM⁴INITIAL FORM⁴MEDIAL FORM",
    "²YEH BARREE ISOLATED FORM⁴FINAL FORM⁴WITH HAMZA ABOVE ISOLATED FORM⁷FINAL FORM",
    "¹SYMBOL DOT ABOVE³BELOW²TWO DOTS ABOVE⁴BELOW²THREE DOTS ABOVE⁴BELOW",
    "⁴POINTING DOWNWARDS ABOVE⁶BELOW²FOUR DOTS ABOVE⁴BELOW²DOUBLE VERTICAL BAR BELOW",
    "²TWO DOTS VERTICALLY ABOVE⁵BELOW²RING²SMALL TAH ABOVE⁴BELOW²WASLA ABOVE"]⟩,
  ⟨0xfbd3, [
    "⁰ARABIC LETTER NG ISOLATED FORM³FINAL FORM³INITIAL FORM³MEDIAL FORM²U ISOLATED FORM",
    "³FINAL FORM²OE ISOLATED FORM³FINAL FORM²YU ISOLATED FORM³FINAL FORM",
    "²U WITH HAMZA ABOVE ISOLATED FORM²VE ISOLATED FORM³FINAL FORM²KIRGHIZ OE ISOLATED FORM",
    "⁴FINAL FORM³YU ISOLATED FORM⁴FINAL FORM²E ISOLATED FORM³FINAL FORM³INITIAL FORM",
    "³MEDIAL FORM²UIGHUR KAZAKH KIRGHIZ ALEF MAKSURA INITIAL FORM⁷MEDIAL FORM",
    "¹LIGATURE YEH WITH HAMZA ABOVE WITH ALEF ISOLATED FORM⁸FINAL FORM⁷AE ISOLATED FORM",
    "⁸FINAL FORM⁷WAW ISOLATED FORM⁸FINAL FORM⁷U ISOLATED FORM⁸FINAL FORM⁷OE ISOLATED FORM",
    "⁸FINAL FORM⁷YU ISOLATED FORM⁸FINAL FORM⁷E ISOLATED FORM⁸FINAL FORM⁸INITIAL FORM",
    "²UIGHUR KIRGHIZ YEH WITH HAMZA ABOVE WITH ALEF MAKSURA ISOLATED FORM",
    "⁹ALEF MAKSURA FINAL FORM⁹ALEF MAKSURA INITIAL FORM¹LETTER FARSI YEH ISOLATED FORM",
    "⁴FINAL FORM⁴INITIAL FORM⁴MEDIAL FORM",
    "¹LIGATURE YEH WITH HAMZA ABOVE WITH JEEM ISOLATED FORM⁷HAH ISOLATED FORM",
    "⁷MEEM ISOLATED FORM⁷ALEF MAKSURA ISOLATED FORM⁷YEH ISOLATED FORM",
    "²BEH WITH JEEM ISOLATED FORM⁴HAH ISOLATED FORM⁴KHAH ISOLATED FORM⁴MEEM ISOLATED FORM",
    "⁴ALEF MAKSURA ISOLATED FORM⁴YEH ISOLATED FORM²TEH WITH JEEM ISOLATED FORM",
    "⁴HAH ISOLATED FORM⁴KHAH ISOLATED FORM⁴MEEM ISOLATED FORM⁴ALEF MAKSURA ISOLATED FORM",
    "⁴YEH ISOLATED FORM²THEH WITH JEEM ISOLATED FORM⁴MEEM ISOLATED FORM",
    "⁴ALEF MAKSURA ISOLATED FORM⁴YEH ISOLATED FORM²JEEM WITH HAH ISOLATED FORM",
    "⁴MEEM ISOLATED FORM²HAH WITH JEEM ISOLATED FORM⁴MEEM ISOLATED FORM",
    "²KHAH WITH JEEM ISOLATED FORM⁴HAH ISOLATED FORM⁴MEEM ISOLATED FORM",
    "²SEEN WITH JEEM ISOLATED FORM⁴HAH ISOLATED FORM⁴KHAH ISOLATED FORM⁴MEEM ISOLATED FORM",
    "²SAD WITH HAH ISOLATED FORM⁴MEEM ISOLATED FORM²DAD WITH JEEM ISOLATED FORM",
    "⁴HAH ISOLATED FORM⁴KHAH ISOLATED FORM⁴MEEM ISOLATED FORM²TAH WITH HAH ISOLATED FORM",
    "⁴MEEM ISOLATED FORM²ZAH WITH MEEM ISOLATED FORM²AIN WITH JEEM ISOLATED FORM",
    "⁴MEEM ISOLATED FORM²GHAIN WITH JEEM ISOLATED FORM⁴MEEM ISOLATED FORM",
    "²FEH WITH JEEM ISOLATED FORM⁴HAH ISOLATED FORM⁴KHAH ISOLATED FORM⁴MEEM ISOLATED FORM",
    "⁴ALEF MAKSURA ISOLATED FORM⁴YEH ISOLATED FORM²QAF WITH HAH ISOLATED FORM",
    "⁴MEEM ISOLATED FORM⁴ALEF MAKSURA ISOLATED FORM⁴YEH ISOLATED FORM",
    "²KAF WITH ALEF ISOLATED FORM⁴JEEM ISOLATED FORM⁴HAH ISOLATED FORM⁴KHAH ISOLATED FORM",
    "⁴LAM ISOLATED FORM⁴MEEM ISOLATED FORM⁴ALEF MAKSURA ISOLATED FORM⁴YEH ISOLATED FORM",
    "²LAM WITH JEEM ISOLATED FORM⁴HAH ISOLATED FORM⁴KHAH ISOLATED FORM⁴MEEM ISOLATED FORM",
    "⁴ALEF MAKSURA ISOLATED FORM⁴YEH ISOLATED FORM²MEEM WITH JEEM ISOLATED FORM",
    "⁴HAH ISOLATED FORM⁴KHAH ISOLATED FORM⁴MEEM ISOLATED FORM⁴ALEF MAKSURA ISOLATED FORM",
    "⁴YEH ISOLATED FORM²NOON WITH JEEM ISOLATED FORM⁴HAH ISOLATED FORM⁴KHAH ISOLATED FORM",
    "⁴MEEM ISOLATED FORM⁴ALEF MAKSURA ISOLATED FORM⁴YEH ISOLATED FORM",
    "²HEH WITH JEEM ISOLATED FORM⁴MEEM ISOLATED FORM⁴ALEF MAKSURA ISOLATED FORM",
    "⁴YEH ISOLATED FORM²YEH WITH JEEM ISOLATED FORM⁴HAH ISOLATED FORM⁴KHAH ISOLATED FORM",
    "⁴MEEM ISOLATED FORM⁴ALEF MAKSURA ISOLATED FORM⁴YEH ISOLATED FORM",
    "²THAL WITH SUPERSCRIPT ALEF ISOLATED FORM²REH WITH SUPERSCRIPT ALEF ISOLATED FORM",
    "²ALEF MAKSURA WITH SUPERSCRIPT ALEF ISOLATED FORM²SHADDA WITH DAMMATAN ISOLATED FORM",
    "⁴KASRATAN ISOLATED FORM⁴FATHA ISOLATED FORM⁴DAMMA ISOLATED FORM⁴KASRA ISOLATED FORM",
    "⁴SUPERSCRIPT ALEF ISOLATED FORM²YEH WITH HAMZA ABOVE WITH REH FINAL FORM⁷ZAIN FINAL FORM",
    "⁷MEEM FINAL FORM⁷NOON FINAL FORM⁷ALEF MAKSURA FINAL FORM⁷YEH FINAL FORM",
    "²BEH WITH REH FINAL FORM⁴ZAIN FINAL FORM⁴MEEM FINAL FORM⁴NOON FINAL FORM",
    "⁴ALEF MAKSURA FINAL FORM⁴YEH FINAL FORM²TEH WITH REH FINAL FORM⁴ZAIN FINAL FORM",
    "⁴MEEM FINAL FORM⁴NOON FINAL FORM⁴ALEF MAKSURA FINAL FORM⁴YEH FINAL FORM",
    "²THEH WITH REH FINAL FORM⁴ZAIN FINAL FORM⁴MEEM FINAL FORM⁴NOON FINAL FORM",
    "⁴ALEF MAKSURA FINAL FORM⁴YEH FINAL FORM²FEH WITH ALEF MAKSURA FINAL FORM⁴YEH FINAL FORM",
    "²QAF WITH ALEF MAKSURA FINAL FORM⁴YEH FINAL FORM²KAF WITH ALEF FINAL FORM⁴LAM FINAL FORM",
    "⁴MEEM FINAL FORM⁴ALEF MAKSURA FINAL FORM⁴YEH FINAL FORM²LAM WITH MEEM FINAL FORM",
    "⁴ALEF MAKSURA FINAL FORM⁴YEH FINAL FORM²MEEM WITH ALEF FINAL FORM⁴MEEM FINAL FORM",
    "²NOON WITH REH FINAL FORM⁴ZAIN FINAL FORM⁴MEEM FINAL FORM⁴NOON FINAL FORM",
    "⁴ALEF MAKSURA FINAL FORM⁴YEH FINAL FORM²ALEF MAKSURA WITH SUPERSCRIPT ALEF FINAL FORM",
    "²YEH WITH REH FINAL FORM⁴ZAIN FINAL FORM⁴MEEM FINAL FORM⁴NOON FINAL FORM",
    "⁴ALEF MAKSURA FINAL FORM⁴YEH FINAL FORM⁴HAMZA ABOVE WITH JEEM INITIAL FORM",
    "⁷HAH INITIAL FORM⁷KHAH INITIAL FORM⁷MEEM INITIAL FORM⁷HEH INITIAL FORM",
    "²BEH WITH JEEM INITIAL FORM⁴HAH INITIAL FORM⁴KHAH INITIAL FORM⁴MEEM INITIAL FORM",
    "⁴HEH INITIAL FORM²TEH WITH JEEM INITIAL FORM⁴HAH INITIAL FORM⁴KHAH INITIAL FORM",
    "⁴MEEM INITIAL FORM⁴HEH INITIAL FORM²THEH WITH MEEM INITIAL FORM",
    "²JEEM WITH HAH INITIAL FORM⁴MEEM INITIAL FORM²HAH WITH JEEM INITIAL FORM",
    "⁴MEEM INITIAL FORM²KHAH WITH JEEM INITIAL FORM⁴MEEM INITIAL FORM",
    "²SEEN WITH JEEM INITIAL FORM⁴HAH INITIAL FORM⁴KHAH INITIAL FORM⁴MEEM INITIAL FORM",
    "²SAD WITH HAH INITIAL FORM⁴KHAH INITIAL FORM⁴MEEM INITIAL FORM",
    "²DAD WITH JEEM INITIAL FORM⁴HAH INITIAL FORM⁴KHAH INITIAL FORM⁴MEEM INITIAL FORM",
    "²TAH WITH HAH INITIAL FORM²ZAH WITH MEEM INITIAL FORM²AIN WITH JEEM INITIAL FORM",
    "⁴MEEM INITIAL FORM²GHAIN WITH JEEM INITIAL FORM⁴MEEM INITIAL FORM",
    "²FEH WITH JEEM INITIAL FORM⁴HAH INITIAL FORM⁴KHAH INITIAL FORM⁴MEEM INITIAL FORM",
    "²QAF WITH HAH INITIAL FORM⁴MEEM INITIAL FORM²KAF WITH JEEM INITIAL FORM⁴HAH INITIAL FORM",
    "⁴KHAH INITIAL FORM⁴LAM INITIAL FORM⁴MEEM INITIAL FORM²LAM WITH JEEM INITIAL FORM",
    "⁴HAH INITIAL FORM⁴KHAH INITIAL FORM⁴MEEM INITIAL FORM⁴HEH INITIAL FORM",
    "²MEEM WITH JEEM INITIAL FORM⁴HAH INITIAL FORM⁴KHAH INITIAL FORM⁴MEEM INITIAL FORM",
    "²NOON WITH JEEM INITIAL FORM⁴HAH INITIAL FORM⁴KHAH INITIAL FORM⁴MEEM INITIAL FORM",
    "⁴HEH INITIAL FORM²HEH WITH JEEM INITIAL FORM⁴MEEM INITIAL FORM",
    "⁴SUPERSCRIPT ALEF INITIAL FORM²YEH WITH JEEM INITIAL FORM⁴HAH INITIAL FORM",
    "⁴KHAH INITIAL FORM⁴MEEM INITIAL FORM⁴HEH INITIAL FORM⁴HAMZA ABOVE WITH MEEM MEDIAL FORM",
    "⁷HEH MEDIAL FORM²BEH WITH MEEM MEDIAL FORM⁴HEH MEDIAL FORM²TEH WITH MEEM MEDIAL FORM",
    "⁴HEH MEDIAL FORM²THEH WITH MEEM MEDIAL FORM⁴HEH MEDIAL FORM²SEEN WITH MEEM MEDIAL FORM",
    "⁴HEH MEDIAL FORM²SHEEN WITH MEEM MEDIAL FORM⁴HEH MEDIAL FORM²KAF WITH LAM MEDIAL FORM",
    "⁴MEEM MEDIAL FORM²LAM WITH MEEM MEDIAL FORM²NOON WITH MEEM MEDIAL FORM⁴HEH MEDIAL FORM",
    "²YEH WITH MEEM MEDIAL FORM⁴HEH MEDIAL FORM²SHADDA WITH FATHA MEDIAL FORM",
    "⁴DAMMA MEDIAL FORM⁴KASRA MEDIAL FORM²TAH WITH ALEF MAKSURA ISOLATED FORM",
    "⁴YEH ISOLATED FORM²AIN WITH ALEF MAKSURA ISOLATED FORM⁴YEH ISOLATED FORM",
    "²GHAIN WITH ALEF MAKSURA ISOLATED FORM⁴YEH ISOLATED FORM",
    "²SEEN WITH ALEF MAKSURA ISOLATED FORM⁴YEH ISOLATED FORM",
    "²SHEEN WITH ALEF MAKSURA ISOLATED FORM⁴YEH ISOLATED FORM",
    "²HAH WITH ALEF MAKSURA ISOLATED FORM⁴YEH ISOLATED FORM",
    "²JEEM WITH ALEF MAKSURA ISOLATED FORM⁴YEH ISOLATED FORM",
    "²KHAH WITH ALEF MAKSURA ISOLATED FORM⁴YEH ISOLATED FORM",
    "²SAD WITH ALEF MAKSURA ISOLATED FORM⁴YEH ISOLATED FORM",
    "²DAD WITH ALEF MAKSURA ISOLATED FORM⁴YEH ISOLATED FORM²SHEEN WITH JEEM ISOLATED FORM",
    "⁴HAH ISOLATED FORM⁴KHAH ISOLATED FORM⁴MEEM ISOLATED FORM⁴REH ISOLATED FORM",
    "²SEEN WITH REH ISOLATED FORM²SAD WITH REH ISOLATED FORM²DAD WITH REH ISOLATED FORM",
    "²TAH WITH ALEF MAKSURA FINAL FORM⁴YEH FINAL FORM²AIN WITH ALEF MAKSURA FINAL FORM",
    "⁴YEH FINAL FORM²GHAIN WITH ALEF MAKSURA FINAL FORM⁴YEH FINAL FORM",
    "²SEEN WITH ALEF MAKSURA FINAL FORM⁴YEH FINAL FORM²SHEEN WITH ALEF MAKSURA FINAL FORM",
    "⁴YEH FINAL FORM²HAH WITH ALEF MAKSURA FINAL FORM⁴YEH FINAL FORM",
    "²JEEM WITH ALEF MAKSURA FINAL FORM⁴YEH FINAL FORM²KHAH WITH ALEF MAKSURA FINAL FORM",
    "⁴YEH FINAL FORM²SAD WITH ALEF MAKSURA FINAL FORM⁴YEH FINAL FORM",
    "²DAD WITH ALEF MAKSURA FINAL FORM⁴YEH FINAL FORM²SHEEN WITH JEEM FINAL FORM",
    "⁴HAH FINAL FORM⁴KHAH FINAL FORM⁴MEEM FINAL FORM⁴REH FINAL FORM²SEEN WITH REH FINAL FORM",
    "²SAD WITH REH FINAL FORM²DAD WITH REH FINAL FORM²SHEEN WITH JEEM INITIAL FORM",
    "⁴HAH INITIAL FORM⁴KHAH INITIAL FORM⁴MEEM INITIAL FORM²SEEN WITH HEH INITIAL FORM",
    "²SHEEN WITH HEH INITIAL FORM²TAH WITH MEEM INITIAL FORM²SEEN WITH JEEM MEDIAL FORM",
    "⁴HAH MEDIAL FORM⁴KHAH MEDIAL FORM²SHEEN WITH JEEM MEDIAL FORM⁴HAH MEDIAL FORM",
    "⁴KHAH MEDIAL FORM²TAH WITH MEEM MEDIAL FORM²ZAH WITH MEEM MEDIAL FORM",
    "²ALEF WITH FATHATAN FINAL FORM⁵ISOLATED FORM⁰ORNATE LEFT PARENTHESIS¹RIGHT PARENTHESIS",
    "⁰ARABIC LIGATURE RAHIMAHU ALLAAH²RADI ALLAAHU ANH⁴ANHAA⁴ANHUM⁴ANHUMAA⁴ANHUNNA",
    "²SALLALLAAHU ALAYHI WA-AALIH²ALAYHI AS-SALAAM²ALAYHIM AS-SALAAM²ALAYHIMAA AS-SALAAM",
    "²ALAYHI AS-SALAATU WAS-SALAAM²QUDDISA SIRRAH²SALLALLAHU ALAYHI WAAALIHEE WA-SALLAM",
    "²ALAYHAA AS-SALAAM²TABAARAKA WA-TAAALAA²RAHIMAHUM ALLAAH",
    "²TEH WITH JEEM WITH MEEM INITIAL FORM⁴HAH WITH JEEM FINAL FORM⁷INITIAL FORM",
    "⁶MEEM INITIAL FORM⁴KHAH WITH MEEM INITIAL FORM⁴MEEM WITH JEEM INITIAL FORM",
    "⁶HAH INITIAL FORM⁶KHAH INITIAL FORM²JEEM WITH MEEM WITH HAH FINAL FORM⁷INITIAL FORM",
    "²HAH WITH MEEM WITH YEH FINAL FORM⁶ALEF MAKSURA FINAL FORM",
    "²SEEN WITH HAH WITH JEEM INITIAL FORM⁴JEEM WITH HAH INITIAL FORM⁶ALEF MAKSURA FINAL FORM",
    "⁴MEEM WITH HAH FINAL FORM⁷INITIAL FORM⁶JEEM INITIAL FORM⁶MEEM FINAL FORM⁷INITIAL FORM",
    "²SAD WITH HAH WITH HAH FINAL FORM⁷INITIAL FORM⁴MEEM WITH MEEM FINAL FORM",
    "²SHEEN WITH HAH WITH MEEM FINAL FORM⁷INITIAL FORM⁴JEEM WITH YEH FINAL FORM",
    "⁴MEEM WITH KHAH FINAL FORM⁷INITIAL FORM⁶MEEM FINAL FORM⁷INITIAL FORM",
    "²DAD WITH HAH WITH ALEF MAKSURA FINAL FORM⁴KHAH WITH MEEM FINAL FORM⁷INITIAL FORM",
    "²TAH WITH MEEM WITH HAH FINAL FORM⁷INITIAL FORM⁶MEEM INITIAL FORM⁶YEH FINAL FORM",
    "²AIN WITH JEEM WITH MEEM FINAL FORM⁴MEEM WITH MEEM FINAL FORM⁷INITIAL FORM",
    "⁶ALEF MAKSURA FINAL FORM²GHAIN WITH MEEM WITH MEEM FINAL FORM⁶YEH FINAL FORM",
    "⁶ALEF MAKSURA FINAL FORM²FEH WITH KHAH WITH MEEM FINAL FORM⁷INITIAL FORM",
    "²QAF WITH MEEM WITH HAH FINAL FORM⁶MEEM FINAL FORM²LAM WITH HAH WITH MEEM FINAL FORM",
    "⁶YEH FINAL FORM⁶ALEF MAKSURA FINAL FORM⁴JEEM WITH JEEM INITIAL FORM⁷FINAL FORM",
    "⁴KHAH WITH MEEM FINAL FORM⁷INITIAL FORM⁴MEEM WITH HAH FINAL FORM⁷INITIAL FORM",
    "²MEEM WITH HAH WITH JEEM INITIAL FORM⁶MEEM INITIAL FORM⁶YEH FINAL FORM",
    "⁴JEEM WITH HAH INITIAL FORM⁶MEEM INITIAL FORM⁴KHAH WITH JEEM INITIAL FORM",
    "⁶MEEM INITIAL FORM"]⟩,
  ⟨0xfd92, [
    "⁰ARABIC LIGATURE MEEM WITH JEEM WITH KHAH INITIAL FORM",
    "²HEH WITH MEEM WITH JEEM INITIAL FORM⁶MEEM INITIAL FORM",
    "²NOON WITH HAH WITH MEEM INITIAL FORM⁶ALEF MAKSURA FINAL FORM⁴JEEM WITH MEEM FINAL FORM",
    "⁷INITIAL FORM⁶ALEF MAKSURA FINAL FORM⁴MEEM WITH YEH FINAL FORM⁶ALEF MAKSURA FINAL FORM",
    "²YEH WITH MEEM WITH MEEM FINAL FORM⁷INITIAL FORM²BEH WITH KHAH WITH YEH FINAL FORM",
    "²TEH WITH JEEM WITH YEH FINAL FORM⁶ALEF MAKSURA FINAL FORM⁴KHAH WITH YEH FINAL FORM",
    "⁶ALEF MAKSURA FINAL FORM⁴MEEM WITH YEH FINAL FORM⁶ALEF MAKSURA FINAL FORM",
    "²JEEM WITH MEEM WITH YEH FINAL FORM⁴HAH WITH ALEF MAKSURA FINAL FORM",
    "⁴MEEM WITH ALEF MAKSURA FINAL FORM²SEEN WITH KHAH WITH ALEF MAKSURA FINAL FORM",
    "²SAD WITH HAH WITH YEH FINAL FORM²SHEEN WITH HAH WITH YEH FINAL FORM",
    "²DAD WITH HAH WITH YEH FINAL FORM²LAM WITH JEEM WITH YEH FINAL FORM",
    "⁴MEEM WITH YEH FINAL FORM²YEH WITH HAH WITH YEH FINAL FORM⁴JEEM WITH YEH FINAL FORM",
    "⁴MEEM WITH YEH FINAL FORM²MEEM WITH MEEM WITH YEH FINAL FORM",
    "²QAF WITH MEEM WITH YEH FINAL FORM²NOON WITH HAH WITH YEH FINAL FORM",
    "²QAF WITH MEEM WITH HAH INITIAL FORM²LAM WITH HAH WITH MEEM INITIAL FORM",
    "²AIN WITH MEEM WITH YEH FINAL FORM²KAF WITH MEEM WITH YEH FINAL FORM",
    "²NOON WITH JEEM WITH HAH INITIAL FORM²MEEM WITH KHAH WITH YEH FINAL FORM",
    "²LAM WITH JEEM WITH MEEM INITIAL FORM²KAF WITH MEEM WITH MEEM FINAL FORM",
    "²LAM WITH JEEM WITH MEEM FINAL FORM²NOON WITH JEEM WITH HAH FINAL FORM",
    "²JEEM WITH HAH WITH YEH FINAL FORM²HAH WITH JEEM WITH YEH FINAL FORM",
    "²MEEM WITH JEEM WITH YEH FINAL FORM²FEH WITH MEEM WITH YEH FINAL FORM",
    "²BEH WITH HAH WITH YEH FINAL FORM²KAF WITH MEEM WITH MEEM INITIAL FORM",
    "²AIN WITH JEEM WITH MEEM INITIAL FORM²SAD WITH MEEM WITH MEEM INITIAL FORM",
    "²SEEN WITH KHAH WITH YEH FINAL FORM²NOON WITH JEEM WITH YEH FINAL FORM"]⟩,
  ⟨0xfdcf, ["⁰ARABIC LIGATURE SALAAMUHU ALAYNAA"]⟩,
  ⟨0xfdf0, [
    "⁰ARABIC LIGATURE SALLA USED AS KORANIC STOP SIGN ISOLATED FORM",
    "²QALA USED AS KORANIC STOP SIGN ISOLATED FORM²ALLAH ISOLATED FORM²AKBAR ISOLATED FORM",
    "²MOHAMMAD ISOLATED FORM²SALAM ISOLATED FORM²RASOUL ISOLATED FORM²ALAYHE ISOLATED FORM",
    "²WASALLAM ISOLATED FORM²SALLA ISOLATED FORM²SALLALLAHOU ALAYHE WASALLAM²JALLAJALALOUHOU",
    "⁰RIAL SIGN⁰ARABIC LIGATURE BISMILLAH AR-RAHMAN AR-RAHEEM²SUBHAANAHU WA TAAALAA",
    "²AZZA WA JALL"]⟩,
  ⟨0xfe10, [
    "⁰PRESENTATION FORM FOR VERTICAL COMMA⁴IDEOGRAPHIC COMMA⁵FULL STOP⁴COLON⁴SEMICOLON",
    "⁴EXCLAMATION MARK⁴QUESTION MARK⁴LEFT WHITE LENTICULAR BRACKET",
    "⁴RIGHT WHITE LENTICULAR BRAKCET⁴HORIZONTAL ELLIPSIS"]⟩,
  ⟨0xfe20, [
    "⁰COMBINING LIGATURE LEFT HALF²RIGHT HALF¹DOUBLE TILDE LEFT HALF³RIGHT HALF",
    "¹MACRON LEFT HALF²RIGHT HALF¹CONJOINING MACRON¹LIGATURE LEFT HALF BELOW²RIGHT HALF BELOW",
    "¹TILDE LEFT HALF BELOW²RIGHT HALF BELOW¹MACRON LEFT HALF BELOW²RIGHT HALF BELOW",
    "¹CONJOINING MACRON BELOW¹CYRILLIC TITLO LEFT HALF³RIGHT HALF",
    "⁰PRESENTATION FORM FOR VERTICAL TWO DOT LEADER⁴EM DASH⁴EN DASH⁴LOW LINE⁴WAVY LOW LINE",
    "⁴LEFT PARENTHESIS⁴RIGHT PARENTHESIS⁴LEFT CURLY BRACKET⁴RIGHT CURLY BRACKET",
    "⁴LEFT TORTOISE SHELL BRACKET⁴RIGHT TORTOISE SHELL BRACKET⁴LEFT BLACK LENTICULAR BRACKET",
    "⁴RIGHT BLACK LENTICULAR BRACKET⁴LEFT DOUBLE ANGLE BRACKET⁴RIGHT DOUBLE ANGLE BRACKET",
    "⁴LEFT ANGLE BRACKET⁴RIGHT ANGLE BRACKET⁴LEFT CORNER BRACKET⁴RIGHT CORNER BRACKET",
    "⁴LEFT WHITE CORNER BRACKET⁴RIGHT WHITE CORNER BRACKET⁰SESAME DOT⁰WHITE SESAME DOT",
    "⁰PRESENTATION FORM FOR VERTICAL LEFT SQUARE BRACKET⁴RIGHT SQUARE BRACKET⁰DASHED OVERLINE",
    "⁰CENTRELINE OVERLINE⁰WAVY OVERLINE⁰DOUBLE WAVY OVERLINE⁰DASHED LOW LINE",
    "⁰CENTRELINE LOW LINE⁰WAVY LOW LINE⁰SMALL COMMA¹IDEOGRAPHIC COMMA¹FULL STOP"]⟩,
  ⟨0xfe54, [
    "⁰SMALL SEMICOLON¹COLON¹QUESTION MARK¹EXCLAMATION MARK¹EM DASH¹LEFT PARENTHESIS",
    "¹RIGHT PARENTHESIS¹LEFT CURLY BRACKET¹RIGHT CURLY BRACKET¹LEFT TORTOISE SHELL BRACKET",
    "¹RIGHT TORTOISE SHELL BRACKET¹NUMBER SIGN¹AMPERSAND¹ASTERISK¹PLUS SIGN¹HYPHEN-MINUS",
    "¹LESS-THAN SIGN¹GREATER-THAN SIGN¹EQUALS SIGN"]⟩,
  ⟨0xfe68, ["⁰SMALL REVERSE SOLIDUS¹DOLLAR SIGN¹PERCENT SIGN¹COMMERCIAL AT"]⟩,
  ⟨0xfe70, [
    "⁰ARABIC FATHATAN ISOLATED FORM¹TATWEEL WITH FATHATAN ABOVE¹DAMMATAN ISOLATED FORM",
    "¹TAIL FRAGMENT¹KASRATAN ISOLATED FORM"]⟩,
  ⟨0xfe76, [
    "⁰ARABIC FATHA ISOLATED FORM²MEDIAL FORM¹DAMMA ISOLATED FORM²MEDIAL FORM",
    "¹KASRA ISOLATED FORM²MEDIAL FORM¹SHADDA ISOLATED FORM²MEDIAL FORM¹SUKUN ISOLATED FORM",
    "²MEDIAL FORM¹LETTER HAMZA ISOLATED FORM²ALEF WITH MADDA ABOVE ISOLATED FORM⁶FINAL FORM",
    "⁴HAMZA ABOVE ISOLATED FORM⁶FINAL FORM²WAW WITH HAMZA ABOVE ISOLATED FORM⁶FINAL FORM",
    "²ALEF WITH HAMZA BELOW ISOLATED FORM⁶FINAL FORM²YEH WITH HAMZA ABOVE ISOLATED FORM",
    "⁶FINAL FORM⁶INITIAL FORM⁶MEDIAL FORM²ALEF ISOLATED FORM³FINAL FORM²BEH ISOLATED FORM",
    "³FINAL FORM³INITIAL FORM³MEDIAL FORM²TEH MARBUTA ISOLATED FORM⁴FINAL FORM³ISOLATED FORM",
    "³FINAL FORM³INITIAL FORM³MEDIAL FORM²THEH ISOLATED FORM³FINAL FORM³INITIAL FORM",
    "³MEDIAL FORM²JEEM ISOLATED FORM³FINAL FORM³INITIAL FORM³MEDIAL FORM²HAH ISOLATED FORM",
    "³FINAL FORM³INITIAL FORM³MEDIAL FORM²KHAH ISOLATED FORM³FINAL FORM³INITIAL FORM",
    "³MEDIAL FORM²DAL ISOLATED FORM³FINAL FORM²THAL ISOLATED FORM³FINAL FORM",
    "²REH ISOLATED FORM³FINAL FORM²ZAIN ISOLATED FORM³FINAL FORM²SEEN ISOLATED FORM",
    "³FINAL FORM³INITIAL FORM³MEDIAL FORM²SHEEN ISOLATED FORM³FINAL FORM³INITIAL FORM",
    "³MEDIAL FORM²SAD ISOLATED FORM³FINAL FORM³INITIAL FORM³MEDIAL FORM²DAD ISOLATED FORM",
    "³FINAL FORM³INITIAL FORM³MEDIAL FORM²TAH ISOLATED FORM³FINAL FORM³INITIAL FORM",
    "³MEDIAL FORM²ZAH ISOLATED FORM³FINAL FORM³INITIAL FORM³MEDIAL FORM²AIN ISOLATED FORM",
    "³FINAL FORM³INITIAL FORM³MEDIAL FORM²GHAIN ISOLATED FORM³FINAL FORM³INITIAL FORM",
    "³MEDIAL FORM²FEH ISOLATED FORM³FINAL FORM³INITIAL FORM³MEDIAL FORM²QAF ISOLATED FORM",
    "³FINAL FORM³INITIAL FORM³MEDIAL FORM²KAF ISOLATED FORM³FINAL FORM³INITIAL FORM",
    "³MEDIAL FORM²LAM ISOLATED FORM³FINAL FORM³INITIAL FORM³MEDIAL FORM²MEEM ISOLATED FORM",
    "³FINAL FORM³INITIAL FORM³MEDIAL FORM²NOON ISOLATED FORM³FINAL FORM³INITIAL FORM",
    "³MEDIAL FORM²HEH ISOLATED FORM³FINAL FORM³INITIAL FORM³MEDIAL FORM²WAW ISOLATED FORM",
    "³FINAL FORM²ALEF MAKSURA ISOLATED FORM⁴FINAL FORM²YEH ISOLATED FORM³FINAL FORM",
    "³INITIAL FORM³MEDIAL FORM¹LIGATURE LAM WITH ALEF WITH MADDA ABOVE ISOLATED FORM",
    "⁸FINAL FORM⁶HAMZA ABOVE ISOLATED FORM⁸FINAL FORM⁷BELOW ISOLATED FORM⁸FINAL FORM",
    "⁵ISOLATED FORM⁵FINAL FORM"]⟩,
  ⟨0xfeff, ["⁰ZERO WIDTH NO-BREAK SPACE"]⟩,
  ⟨0xff01, [
    "⁰FULLWIDTH EXCLAMATION MARK¹QUOTATION MARK¹NUMBER SIGN¹DOLLAR SIGN¹PERCENT SIGN",
    "¹AMPERSAND¹APOSTROPHE¹LEFT PARENTHESIS¹RIGHT PARENTHESIS¹ASTERISK¹PLUS SIGN¹COMMA",
    "¹HYPHEN-MINUS¹FULL STOP¹SOLIDUS¹DIGIT ZERO²ONE²TWO²THREE²FOUR²FIVE²SIX²SEVEN²EIGHT²NINE",
    "¹COLON¹SEMICOLON¹LESS-THAN SIGN¹EQUALS SIGN¹GREATER-THAN SIGN¹QUESTION MARK",
    "¹COMMERCIAL AT¹LATIN CAPITAL LETTER A⁴B⁴C⁴D⁴E⁴F⁴G⁴H⁴I⁴J⁴K⁴L⁴M⁴N⁴O⁴P⁴Q⁴R⁴S⁴T⁴U⁴V⁴W⁴X⁴Y⁴Z",
    "¹LEFT SQUARE BRACKET¹REVERSE SOLIDUS¹RIGHT SQUARE BRACKET¹CIRCUMFLEX ACCENT¹LOW LINE",
    "¹GRAVE ACCENT¹LATIN SMALL LETTER A⁴B⁴C⁴D⁴E⁴F⁴G⁴H⁴I⁴J⁴K⁴L⁴M⁴N⁴O⁴P⁴Q⁴R⁴S⁴T⁴U⁴V⁴W⁴X⁴Y⁴Z",
    "¹LEFT CURLY BRACKET¹VERTICAL LINE¹RIGHT CURLY BRACKET¹TILDE¹LEFT WHITE PARENTHESIS",
    "¹RIGHT WHITE PARENTHESIS⁰HALFWIDTH IDEOGRAPHIC FULL STOP¹LEFT CORNER BRACKET",
    "¹RIGHT CORNER BRACKET¹IDEOGRAPHIC COMMA¹KATAKANA MIDDLE DOT²LETTER WO³SMALL A⁴I⁴U⁴E⁴O⁴YA",
    "⁴YU⁴YO⁴TU¹KATAKANA-HIRAGANA PROLONGED SOUND MARK¹KATAKANA LETTER A³I³U³E³O³KA³KI³KU³KE",
    "³KO³SA³SI³SU³SE³SO³TA³TI³TU³TE³TO³NA³NI³NU³NE³NO³HA³HI³HU³HE³HO³MA³MI³MU³ME³MO³YA³YU³YO",
    "³RA³RI³RU³RE³RO³WA³N²VOICED SOUND MARK²SEMI-VOICED SOUND MARK¹HANGUL FILLER",
    "²LETTER KIYEOK³SSANGKIYEOK³KIYEOK-SIOS³NIEUN³NIEUN-CIEUC³NIEUN-HIEUH³TIKEUT³SSANGTIKEUT",
    "³RIEUL³RIEUL-KIYEOK³RIEUL-MIEUM³RIEUL-PIEUP³RIEUL-SIOS³RIEUL-THIEUTH³RIEUL-PHIEUPH",
    "³RIEUL-HIEUH³MIEUM³PIEUP³SSANGPIEUP³PIEUP-SIOS³SIOS³SSANGSIOS³IEUNG³CIEUC³SSANGCIEUC",
    "³CHIEUCH³KHIEUKH³THIEUTH³PHIEUPH³HIEUH"]⟩,
  ⟨0xffc2, ["⁰HALFWIDTH HANGUL LETTER A³AE³YA³YAE³EO³E"]⟩,
  ⟨0xffca, ["⁰HALFWIDTH HANGUL LETTER YEO³YE³O³WA³WAE³OE"]⟩,
  ⟨0xffd2, ["⁰HALFWIDTH HANGUL LETTER YO³U³WEO³WE³WI³YU"]⟩,
  ⟨0xffda, ["⁰HALFWIDTH HANGUL LETTER EU³YI³I"]⟩,
  ⟨0xffe0, [
    "⁰FULLWIDTH CENT SIGN¹POUND SIGN¹NOT SIGN¹MACRON¹BROKEN BAR¹YEN SIGN¹WON SIGN"]⟩,
  ⟨0xffe8, [
    "⁰HALFWIDTH FORMS LIGHT VERTICAL¹LEFTWARDS ARROW¹UPWARDS ARROW¹RIGHTWARDS ARROW",
    "¹DOWNWARDS ARROW¹BLACK SQUARE¹WHITE CIRCLE"]⟩,
  ⟨0xfff9, [
    "⁰INTERLINEAR ANNOTATION ANCHOR²SEPARATOR²TERMINATOR⁰OBJECT REPLACEMENT CHARACTER",
    "⁰REPLACEMENT CHARACTER"]⟩]

end BlockLang.CharName
