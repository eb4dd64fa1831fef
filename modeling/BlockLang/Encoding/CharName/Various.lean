import BlockLang.Encoding.CharName.Basic

/-! # Names of characters of various scripts -/

namespace BlockLang.CharName

/-- The names of the scripts from Bamum to Duployan. -/
def various : List Run := [
  ⟨0x16800, [
    "⁰BAMUM LETTER PHASE-A NGKUE MFON³GBIEE FON³PON MFON PIPAEMGBIEE⁵PIPAEMBA³NAA MFON",
    "³SHUENSHUET³TITA MFON³NZA MFON³SHINDA PA NJI³PON PA NJI PIPAEMGBIEE⁶PIPAEMBA³MAEMBGBIEE",
    "³TU MAEMBA³NGANGU³MAEMVEUX³MANSUAE³MVEUAENGAM³SEUNYAM³NTOQPEN³KEUKEUTNDA³NKINDI³SUU",
    "³NGKUENZEUM³LAPAQ³LET KUT³NTAP MFAA³MAEKEUP³PASHAE³GHEUAERAE³PAMSHAE³MON NGGEUAET",
    "³NZUN MEUT³U YUQ NAE³GHEUAEGHEUAE³NTAP NTAA³SISA³MGBASA³MEUNJOMNDEUQ³MOOMPUQ³KAFA",
    "³PA LEERAEWA³NDA LEERAEWA³PET³MAEMKPEN³NIKA³PUP³TUAEP³LUAEP³SONJAM³TEUTEUWEN³MAENYI³KET",
    "³NDAANGGEUAET³KUOQ³MOOMEUT³SHUM³LOMMAE³FIRI³ROM³KPOQ³SOQ³MAP PIEET³SHIRAE³NTAP",
    "³SHOQ NSHUT YUM³NYIT MONGKEUAEQ³PAARAE³NKAARAE³UNKNOWN³NGGEN³MAESI³NJAM³MBANYI³NYET",
    "³TEUAEN³SOT³PAAM³NSHIEE³MAEM³NYI³KAQ³NSHA³VEE³LU³NEN³NAQ³MBAQ²PHASE-B NSHUET",
    "³TU MAEMGBIEE³SIEE³SET TU³LOM NTEUM³MBA MAELEE³KIEEM³YEURAE³MBAARAE³KAM³PEESHI",
    "³YAFU LEERAEWA³LAM NSHUT NYAM³NTIEE SHEUOQ³NDU NJAA³GHEUGHEUAEM³PIT³TU NSIEE³SHET NJAQ",
    "³SHEUAEQTU³MFON TEUAEQ³MBIT MBAAKET³NYI NTEUM³KEUPUQ³GHEUGHEN³KEUYEUX³LAANAE³PARUM³VEUM",
    "³NGKINDI MVOP³NGGEU MBU³WUAET³SAKEUAE³TAAM³MEUQ³NGGUOQ⁴LARGE³MFIYAQ³SUE³MBEURI³MONTIEEN",
    "³NYAEMAE³PUNGAAM³MEUT NGGEET³FEUX³MBUOQ³FEE³KEUAEM³MA NJEUAENA⁴NJUQA³LET³NGGAAM³NSEN³MA",
    "³KIQ³NGOM²PHASE-C NGKUE MAEMBA³NZA³YUM³WANGKUOQ³NGGEN³NDEUAEREE³NGKAQ³GHARAE³MBEEKEET",
    "³GBAYI³NYIR MKPARAQ MEUN³NTU MBIT³MBEUM³PIRIEEN³NDOMBU³MBAA CABBAGE-TREE³KEUSHEUAEP³GHAP",
    "³KEUKAQ³YU MUOMAE³NZEUM³MBUE³NSEUAEN³MBIT³YEUQ³KPARAQ³KAA³SEUX³NDIDA³TAASHAE³NJUEQ",
    "³TITA YUE³SUAET³NGGUAEN NYAM³VEUX³NANSANAQ³MA KEUAERI³NTAA³NGGUON³LAP³MBIRIEEN³MGBASAQ",
    "³NTEUNGBA³TEUTEUX³NGGUM³FUE³NDEUT³NSA³NSHAQ³BUNG³VEUAEPEN³MBERAE³RU³NJAEM³LAM³TITUAEP",
    "³NSUOT NGOM³NJEEEE³KET³NGGU³MAESI³MBUAEM³LU³KUT³NJAM³NGOM³WUP³NGGUEET³NSOM³NTEN",
    "³KUOP NKAARAE³NSUN³NDAM³MA NSIEE³YAA³NDAP³SHUEQ³SETFON³MBI³MAEMBA³MBANYI³KEUSEUX³MBEUX",
    "³KEUM³MBAA PICKET³YUWOQ³NJEUX³MIEE³MUAE³SHIQ³KEN LAW⁴FATIGUE³NGAQ³NAQ³LIQ³PIN³PEN³TET",
    "²PHASE-D MBUO³WAP³NJI³MFON³NJIEE³LIEE³NJEUT³NSHEE³NGGAAMAE³NYAM³WUAEN³NGKUN³SHEE³NGKAP",
    "³KEUAETMEUN³TEUT³SHEUAE³NJAP³SUE³KET³YAEMMAE³KUOM³SAP³MFEUT³NDEUX³MALEERI³MEUT³SEUAEQ",
    "³YEN³NJEUAEM³KEUOT MBUAE³NGKEURI³TU³GHAA³NGKYEE³FEUFEUAET³NDEE³MGBOFUM³LEUAEP³NDON³MONI",
    "³MGBEUN³PUUT³MGBIEE³MFO³LUM³NSIEEP³MBAA³KWAET³NYET³TEUAEN³SOT³YUWOQ³KEUM³RAEM³TEEEE",
    "³NGKEUAEQ³MFEUAE³NSIEET³KEUP³PIP³PEUTAE³NYUE³LET³NGGAAM³MFIEE³NGGWAEN³YUOM³PAP³YUOP³NDAM",
    "³NTEUM³SUAE³KUN³NGGEUX³NGKIEE³TUOT³MEUN³KUQ³NSUM³TEUN³MAENJET³NGGAP³LEUM³NGGUOM³NSHUT",
    "³NJUEQ³GHEUAE³KU³REN OLD³TAE³TOQ³NYI³RII³LEEEE³MEEEE³M³SUU³MU³SHII³SHEUX³KYEE³NU³SHU",
    "³NTEE³PEE³NI³SHOQ³PUQ³MVOP³LOQ³REN MUCH³TI³NTUU³MBAA SEVEN³SAQ³FAA²PHASE-E NDAP³TOON",
    "³MBEUM³LAP³VOM³LOON³PAA³SOM³RAQ³NSHUOP³NDUN³PUAE³TAM³NGKA³KPEUX³WUO³SEE³NGGEUAET³PAAM",
    "³TOO³KUOP³LOM³NSHIEE³NGOP³MAEM³NGKEUX³NGOQ³NSHUE³RIMGBA³NJEUX³PEEM³SAA³NGGURAE³MGBA",
    "³GHEUX³NGKEUAEM³NJAEMLI³MAP³LOOT³NGGEEEE³NDIQ³TAEN NTEUM³SET³PUM³NDAA SOFTNESS",
    "³NGGUAESHAE NYAM³YIEE³GHEUN³TUAE³YEUAE³PO³TUMAE³KEUAE³SUAEN³TEUAEQ³VEUAE³WEUX³LAAM³PU",
    "³TAAQ³GHAAMAE³NGEUREUT³SHEUAEQ³MGBEN³MBEE³NZAQ³NKOM³GBET³TUM³KUET³YAP³NYI CLEAVER³YIT",
    "³MFEUQ³NDIAQ³PIEEQ³YUEQ³LEUAEM³FUE³GBEUX³NGKUP³KET³MAE³NGKAAMI³GHET³FA³NTUM³PEUT³YEUM",
    "³NGGEUAE³NYI BETWEEN³NZUQ³POON³MIEE³FUET³NAE³MUAE³GHEUAE³FU I³MVI³PUAQ³NGKUM³KUT³PIET",
    "³NTAP³YEUAET³NGGUP³PA PEOPLE³FU CALL³FOM³NJEE³A³TOQ³O³I³LAQ³PA PLURAL³TAA³TAQ",
    "³NDAA MY HOUSE³SHIQ³YEUX³NGUAE³YUAEN³YOQ SWIMMING⁴COVER³YUQ³YUN³KEUX³PEUX³NJEE EPOCH³PUE",
    "³WUE³FEE³VEE³LU³MI³REUX³RAE³NGUAET³NGA³SHO³SHOQ³FU REMEDY³NA³PI³LOQ³KO³MEN³MA³MAQ³TEU³KI",
    "³MON³TEN³FAQ³GHOM²PHASE-F KA³U³KU³EE³REE³TAE³NYI³LA³RII³RIEE³MEEEE³TAA³NDAA³NJAEM³M³SUU",
    "³SHII³SI³SEUX³KYEE³KET³NUAE³NU³NJUAE³YOQ³SHU³YA³NSHA³PEUX³NTEE³WUE³PEE³RU³NI³REUX³KEN",
    "³NGKWAEN³NGGA³SHO³PUAE³FOM³WA³LI³LOQ³KO³MBEN³REN³MA³MO³MBAA³TET³KPA³SAMBA³VUEQ"]⟩,
  ⟨0x16a40, [
    "⁰MRO LETTER TA²NGI²YO²MIM²BA²DA²A²PHI²KHAI²HAO²DAI²CHU²KEAAE²OL²MAEM²NIN²PA²OO²O²RO²SHI",
    "²THEA²EA²WA²E²KO²LAN²LA²HAI²RI²TEK"]⟩,
  ⟨0x16a60, ["⁰MRO DIGIT ZERO²ONE²TWO²THREE²FOUR²FIVE²SIX²SEVEN²EIGHT²NINE"]⟩,
  ⟨0x16a6e, [
    "⁰MRO DANDA¹DOUBLE DANDA⁰TANGSA LETTER OZ²OC²OQ²OX²AZ²AC²AQ²AX²VZ²VC²VQ²VX²EZ²EC²EQ²EX²IZ",
    "²IC²IQ²IX²UZ²UC²UQ²UX²AWZ²AWC²AWQ²AWX²UIZ²UIC²UIQ²UIX²FINAL NG²LONG UEX²SHORT UEZ³AWX",
    "²UEC²UEZ²UEQ²UEX²UIUZ²UIUC²UIUQ²UIUX²MZ²MC²MQ²MX²KA²KHA²GA²NGA²SA²YA²WA²PA²NYA²PHA²BA²MA",
    "²NA²HA²LA²HTA²TA²DA²RA²NHA²SHA²CA²TSA²GHA²HTTA²THA²XA²FA²DHA²CHA²ZA"]⟩,
  ⟨0x16ac0, ["⁰TANGSA DIGIT ZERO²ONE²TWO²THREE²FOUR²FIVE²SIX²SEVEN²EIGHT²NINE"]⟩,
  ⟨0x16ad0, [
    "⁰BASSA VAH LETTER ENNI³KA³SE³FA³MBE³YIE³GAH³DHII³KPAH³JO³HWAH³WA³ZO³GBU³DO³CE³UWU³TO³BA",
    "³VU³YEIN³PA³WADDA³A³O³OO³U³EE³E³I"]⟩,
  ⟨0x16af0, [
    "⁰BASSA VAH COMBINING HIGH TONE³LOW TONE³MID TONE³LOW-MID TONE³HIGH-LOW TONE²FULL STOP"]⟩,
  ⟨0x16b00, [
    "⁰PAHAWH HMONG VOWEL KEEB³KEEV³KIB³KIV³KAUB³KAUV³KUB³KUV³KEB³KEV³KAIB³KAIV³KOOB³KOOV³KAWB",
    "³KAWV³KUAB³KUAV³KOB³KOV³KIAB³KIAV³KAB³KAV³KWB³KWV³KAAB³KAAV²CONSONANT VAU³NTSAU³LAU³HAU",
    "³NLAU³RAU³NKAU³QHAU³YAU³HLAU³MAU³CHAU³NCHAU³HNAU³PLHAU³NTHAU³NAU³AU³XAU³CAU²MARK CIM TUB",
    "⁴SO⁴KES⁴KHAV⁴SUAM⁴HOM⁴TAUM²SIGN VOS THOM⁴TSHAB CEEB³CIM CHEEM³VOS THIAB⁴FEEM³XYEEM NTXIV",
    "⁴RHO⁴TOV⁴FAIB³VOS SEEV³MEEJ SUAB³VOS NRUA³IB YAM³XAUS³CIM TSOV ROG"]⟩,
  ⟨0x16b50, ["⁰PAHAWH HMONG DIGIT ZERO³ONE³TWO³THREE³FOUR³FIVE³SIX³SEVEN³EIGHT³NINE"]⟩,
  ⟨0x16b5b, [
    "⁰PAHAWH HMONG NUMBER TENS³HUNDREDS³TEN THOUSANDS³MILLIONS³HUNDRED MILLIONS³TEN BILLIONS",
    "³TRILLIONS"]⟩,
  ⟨0x16b63, [
    "⁰PAHAWH HMONG SIGN VOS LUB³XYOO³HLI³THIRD-STAGE HLI³ZWJ THAJ³HNUB³NQIG³XIAB³NTUJ³AV",
    "³TXHEEJ CEEV³MEEJ TSEEB³TAU³LOS³MUS³CIM HAIS LUS NTOG NTOG⁴CUAM TSHOOJ⁴TXWV⁵CHWV",
    "⁴PUB DAWB⁴NRES TOS"]⟩,
  ⟨0x16b7d, [
    "⁰PAHAWH HMONG CLAN SIGN TSHEEJ⁴YEEG⁴LIS⁴LAUJ⁴XYOOJ⁴KOO⁴HAWJ⁴MUAS⁴THOJ⁴TSAB⁴PHAB⁴KHAB⁴HAM",
    "⁴VAJ⁴FAJ⁴YAJ⁴TSWB⁴KWM⁴VWJ"]⟩,
  ⟨0x16e40, [
    "⁰MEDEFAIDRIN CAPITAL LETTER M³S³V³W³ATIU³Z³KP³P³T³G³F³I³K³A³J³E³B³C³U³YU³L³Q³HP³NY³X³D",
    "³OE³N³R³O³AI³Y¹SMALL LETTER M³S³V³W³ATIU³Z³KP³P³T³G³F³I³K³A³J³E³B³C³U³YU³L³Q³HP³NY³X³D",
    "³OE³N³R³O³AI³Y¹DIGIT ZERO²ONE²TWO²THREE²FOUR²FIVE²SIX²SEVEN²EIGHT²NINE¹NUMBER TEN²ELEVEN",
    "²TWELVE²THIRTEEN²FOURTEEN²FIFTEEN²SIXTEEN²SEVENTEEN²EIGHTEEN²NINETEEN",
    "¹DIGIT ONE ALTERNATE FORM²TWO ALTERNATE FORM²THREE ALTERNATE FORM¹COMMA¹FULL STOP",
    "¹SYMBOL AIVA¹EXCLAMATION OH"]⟩,
  ⟨0x16f00, [
    "⁰MIAO LETTER PA²BA²YI PA²PLA²MA²MHA²ARCHAIC MA²FA²VA²VFA²TA²DA²YI TTA³TA²TTA²DDA²NA²NHA",
    "²YI NNA²ARCHAIC NA²NNA²NNHA²LA²LYA²LHA²LHYA²TLHA²DLHA²TLHYA²DLHYA²KA²GA²YI KA²QA²QGA²NGA",
    "²NGHA²ARCHAIC NGA²HA²XA²GHA²GHHA²TSSA²DZZA²NYA²NYHA²TSHA²DZHA²YI TSHA³DZHA²REFORMED TSHA",
    "²SHA²SSA²ZHA²ZSHA²TSA²DZA²YI TSA²SA²ZA²ZSA²ZZA²ZZSA²ARCHAIC ZZA²ZZYA²ZZSYA²WA²AH²HHA²BRI",
    "²SYI²DZYI²TE²TSE²RTE"]⟩,
  ⟨0x16f4f, [
    "⁰MIAO SIGN CONSONANT MODIFIER BAR¹LETTER NASALIZATION¹SIGN ASPIRATION²REFORMED VOICING",
    "³ASPIRATION¹VOWEL SIGN A³AA³AHH³AN³ANG³O³OO³WO³W³E³EN³ENG³OEY³I³IA³IAN³IANG³IO³IE³II³IU",
    "³ING³U³UA³UAN³UANG³UU³UEI³UNG³Y³YI³AE³AEE³ERR³ROUNDED ERR³ER³ROUNDED ER³AI³EI³AU³OU³N³NG",
    "³UOG³YUI³OG³OER³VW³IG³EA³IONG³UI"]⟩,
  ⟨0x16f8f, [
    "⁰MIAO TONE RIGHT²TOP RIGHT²ABOVE²BELOW¹LETTER TONE-2²TONE-3²TONE-4²TONE-5²TONE-6²TONE-7",
    "²TONE-8²REFORMED TONE-1³TONE-2³TONE-4³TONE-5³TONE-6³TONE-8"]⟩,
  ⟨0x16fe0, [
    "⁰TANGUT ITERATION MARK⁰NUSHU ITERATION MARK⁰OLD CHINESE HOOK MARK²ITERATION MARK",
    "⁰KHITAN SMALL SCRIPT FILLER"]⟩,
  ⟨0x16ff0, ["⁰VIETNAMESE ALTERNATE READING MARK CA⁴NHAY"]⟩,
  ⟨0x1aff0, ["⁰KATAKANA LETTER MINNAN TONE-2³TONE-3³TONE-4³TONE-5"]⟩,
  ⟨0x1aff5, [
    "⁰KATAKANA LETTER MINNAN TONE-7³TONE-8³NASALIZED TONE-1⁴TONE-2⁴TONE-3⁴TONE-4⁴TONE-5"]⟩,
  ⟨0x1affd, ["⁰KATAKANA LETTER MINNAN NASALIZED TONE-7⁴TONE-8"]⟩,
  ⟨0x1b000, [
    "⁰KATAKANA LETTER ARCHAIC E⁰HIRAGANA LETTER ARCHAIC YE⁰HENTAIGANA LETTER A-1²A-2²A-3²A-WO",
    "²I-1²I-2²I-3²I-4²U-1²U-2²U-3²U-4²U-5²E-2²E-3²E-4²E-5²E-6²O-1²O-2²O-3²KA-1²KA-2²KA-3²KA-4",
    "²KA-5²KA-6²KA-7²KA-8²KA-9²KA-10²KA-11²KA-KE²KI-1²KI-2²KI-3²KI-4²KI-5²KI-6²KI-7²KI-8²KU-1",
    "²KU-2²KU-3²KU-4²KU-5²KU-6²KU-7²KE-1²KE-2²KE-3²KE-4²KE-5²KE-6²KO-1²KO-2²KO-3²KO-KI²SA-1",
    "²SA-2²SA-3²SA-4²SA-5²SA-6²SA-7²SA-8²SI-1²SI-2²SI-3²SI-4²SI-5²SI-6²SU-1²SU-2²SU-3²SU-4",
    "²SU-5²SU-6²SU-7²SU-8²SE-1²SE-2²SE-3²SE-4²SE-5²SO-1²SO-2²SO-3²SO-4²SO-5²SO-6²SO-7²TA-1",
    "²TA-2²TA-3²TA-4²TI-1²TI-2²TI-3²TI-4²TI-5²TI-6²TI-7²TU-1²TU-2²TU-3²TU-4²TU-TO²TE-1²TE-2",
    "²TE-3²TE-4²TE-5²TE-6²TE-7²TE-8²TE-9²TO-1²TO-2²TO-3²TO-4²TO-5²TO-6²TO-RA²NA-1²NA-2²NA-3",
    "²NA-4²NA-5²NA-6²NA-7²NA-8²NA-9²NI-1²NI-2²NI-3²NI-4²NI-5²NI-6²NI-7²NI-TE²NU-1²NU-2²NU-3",
    "²NE-1²NE-2²NE-3²NE-4²NE-5²NE-6²NE-KO²NO-1²NO-2²NO-3²NO-4²NO-5²HA-1²HA-2²HA-3²HA-4²HA-5",
    "²HA-6²HA-7²HA-8²HA-9²HA-10²HA-11²HI-1²HI-2²HI-3²HI-4²HI-5²HI-6²HI-7²HU-1²HU-2²HU-3²HE-1",
    "²HE-2²HE-3²HE-4²HE-5²HE-6²HE-7²HO-1²HO-2²HO-3²HO-4²HO-5²HO-6²HO-7²HO-8²MA-1²MA-2²MA-3",
    "²MA-4²MA-5²MA-6²MA-7²MI-1²MI-2²MI-3²MI-4²MI-5²MI-6²MI-7²MU-1²MU-2²MU-3²MU-4²ME-1²ME-2",
    "²ME-MA²MO-1²MO-2²MO-3²MO-4²MO-5²MO-6²YA-1²YA-2²YA-3²YA-4²YA-5²YA-YO²YU-1²YU-2²YU-3²YU-4",
    "²YO-1²YO-2²YO-3²YO-4²YO-5²YO-6²RA-1²RA-2²RA-3²RA-4²RI-1²RI-2²RI-3²RI-4²RI-5²RI-6²RI-7",
    "²RU-1²RU-2²RU-3²RU-4²RU-5²RU-6²RE-1²RE-2²RE-3²RE-4²RO-1²RO-2²RO-3²RO-4²RO-5²RO-6²WA-1",
    "²WA-2²WA-3²WA-4²WA-5²WI-1²WI-2²WI-3²WI-4²WI-5²WE-1²WE-2²WE-3²WE-4²WO-1²WO-2²WO-3²WO-4",
    "²WO-5²WO-6²WO-7²N-MU-MO-1²N-MU-MO-2⁰HIRAGANA LETTER ARCHAIC WU",
    "⁰KATAKANA LETTER ARCHAIC YI³YE³WU"]⟩,
  ⟨0x1b150, ["⁰HIRAGANA LETTER SMALL WI³WE³WO"]⟩,
  ⟨0x1b164, ["⁰KATAKANA LETTER SMALL WI³WE³WO³N"]⟩,
  ⟨0x1bc00, [
    "⁰DUPLOYAN LETTER H²X²P²T²F²K²L²B²D²V²G²R²P N²D S²F N²K M²R S²TH²SLOAN DH²DH²KK²SLOAN J",
    "²HL²LH²RH²M²N²J²S²M N²N M²J M²S J²M WITH DOT²N WITH DOT²J WITH DOT⁴DOTS INSIDE AND ABOVE",
    "²S WITH DOT⁵BELOW²M S²N S²J S²S S²M N S²N M S²J M S²S J S²J S WITH DOT³N⁴S²S T⁴R³P⁴R²T S",
    "³R S²W²WH²W R²S N³M²K R S²G R S²S K⁴R²A²SLOAN OW²OA²O²AOU²I²E²IE²SHORT I²UI²EE²SLOAN EH",
    "²ROMANIAN I²SLOAN EE²LONG I²YE²U²EU²XW²U N²LONG U²ROMANIAN U²UH²SLOAN U²OOH²OW²OU²WA²WO",
    "²WI²WEI²WOW²NASAL U³O³I³A²PERNIN AN³AM²SLOAN EN³AN³ON²VOCALIC M"]⟩,
  ⟨0x1bc70, [
    "⁰DUPLOYAN AFFIX LEFT HORIZONTAL SECANT²MID HORIZONTAL SECANT²RIGHT HORIZONTAL SECANT",
    "²LOW VERTICAL SECANT²MID VERTICAL SECANT²HIGH VERTICAL SECANT²ATTACHED SECANT",
    "³LEFT-TO-RIGHT SECANT³TANGENT³TAIL³E HOOK³I HOOK³TANGENT HOOK"]⟩,
  ⟨0x1bc80, [
    "⁰DUPLOYAN AFFIX HIGH ACUTE³TIGHT ACUTE³GRAVE³LONG GRAVE³DOT³CIRCLE³LINE³WAVE³VERTICAL"]⟩,
  ⟨0x1bc90, [
    "⁰DUPLOYAN AFFIX LOW ACUTE³TIGHT ACUTE³GRAVE³LONG GRAVE³DOT³CIRCLE³LINE³WAVE³VERTICAL",
    "³ARROW"]⟩,
  ⟨0x1bc9c, [
    "⁰DUPLOYAN SIGN O WITH CROSS¹THICK LETTER SELECTOR¹DOUBLE MARK",
    "¹PUNCTUATION CHINOOK FULL STOP⁰SHORTHAND FORMAT LETTER OVERLAP²CONTINUING OVERLAP",
    "²DOWN STEP²UP STEP"]⟩,
  ⟨0x1cf00, [
    "⁰ZNAMENNY COMBINING MARK GORAZDO NIZKO S KRYZHEM ON LEFT³NIZKO S KRYZHEM ON LEFT",
    "³TSATA ON LEFT³GORAZDO NIZKO ON LEFT³NIZKO ON LEFT³SREDNE ON LEFT³MALO POVYSHE ON LEFT",
    "³POVYSHE ON LEFT³VYSOKO ON LEFT³MALO POVYSHE S KHOKHLOM ON LEFT",
    "³POVYSHE S KHOKHLOM ON LEFT³VYSOKO S KHOKHLOM ON LEFT³GORAZDO NIZKO S KRYZHEM ON RIGHT",
    "³NIZKO S KRYZHEM ON RIGHT³TSATA ON RIGHT³GORAZDO NIZKO ON RIGHT³NIZKO ON RIGHT",
    "³SREDNE ON RIGHT³MALO POVYSHE ON RIGHT³POVYSHE ON RIGHT³VYSOKO ON RIGHT",
    "³MALO POVYSHE S KHOKHLOM ON RIGHT³POVYSHE S KHOKHLOM ON RIGHT³VYSOKO S KHOKHLOM ON RIGHT",
    "³TSATA S KRYZHEM³MALO POVYSHE S KRYZHEM³STRANNO MALO POVYSHE³POVYSHE S KRYZHEM⁴STRANNO",
    "³VYSOKO S KRYZHEM³MALO POVYSHE STRANNO³GORAZDO VYSOKO³ZELO³ON³RAVNO³TIKHAYA³BORZAYA",
    "³UDARKA³PODVERTKA³LOMKA³KUPNAYA³KACHKA³ZEVOK³SKOBA³RAZSEKA³KRYZH ON LEFT"]⟩,
  ⟨0x1cf30, [
    "⁰ZNAMENNY COMBINING TONAL RANGE MARK MRACHNO⁵SVETLO⁵TRESVETLO²MARK ZADERZHKA",
    "³DEMESTVENNY ZADERZHKA³OTSECHKA³PODCHASHIE⁴WITH VERTICAL STROKE³CHASHKA⁴POLNAYA³OBLACHKO",
    "³SOROCHYA NOZHKA³TOCHKA³DVOETOCHIE²ATTACHING VERTICAL OMET²MARK CURVED OMET³KRYZH",
    "²LOWER TONAL RANGE INDICATOR¹PRIZNAK MODIFIER LEVEL-2³LEVEL-3³DIRECTION FLIP³KRYZH³ROG"]⟩,
  ⟨0x1cf50, [
    "⁰ZNAMENNY NEUME KRYUK³TIKHY²PARAKLIT²DVA V CHELNU²KLYUCH²ZANOZHEK²STOPITSA³S OCHKOM",
    "²PEREVODKA³NEPOSTOYANNAYA²STOPITSA WITH SOROCHYA NOZHKA²CHELYUSTKA²PALKA²ZAPYATAYA",
    "²GOLUBCHIK BORZY³TIKHY³MRACHNY³SVETLY³TRESVETLY²VRAKHIYA PROSTAYA³MRACHNAYA³SVETLAYA",
    "³TRESVETLAYA³KLYUCHEVAYA PROSTAYA⁴MRACHNAYA⁴SVETLAYA⁴TRESVETLAYA²DOUBLE ZAPYATAYA",
    "²REVERSED CHELYUSTKA²DERBITSA²KHAMILO²CHASHKA²PODCHASHIE²SKAMEYTSA MRACHNAYA³SVETLAYA",
    "³TRESVETLAYA³TIKHAYA²DEMESTVENNY KLYUCH²SKAMEYTSA KLYUCHEVAYA SVETLAYA",
    "³KLYUCHENEPOSTOYANNAYA³KLYUCHEVAYA TIKHAYA³DVOECHELNAYA PROSTAYA⁴SVETLAYA⁴NEPOSTOYANNAYA",
    "⁴KLYUCHEVAYA²SLOZHITIE³S ZAPYATOY³ZAKRYTOE³S KRYZHEM²KRYZH²ROG²FITA²KOBYLA²ZMEYTSA",
    "²STATYA³S ZAPYATOY⁴KRYZHEM⁴ZAPYATOY I KRYZHEM⁴KRYZHEM I ZAPYATOY³ZAKRYTAYA⁴S ZAPYATOY",
    "³S ROGOM⁴DVUMYA ZAPYATYMI⁴ZAPYATOY I PODCHASHIEM²POLKULIZMY²STATYA NEPOSTOYANNAYA",
    "²STRELA PROSTAYA³MRACHNOTIKHAYA³KRYZHEVAYA³POLUPOVODNAYA³POVODNAYA³NEPOSTOYANNAYA",
    "³KLYUCHEPOVODNAYA³KLYUCHENEPOSTOYANNAYA³TIKHAYA PUTNAYA³DVOECHELNAYA",
    "³DVOECHELNOKRYZHEVAYA³DVOECHELNOPOVODNAYA³DVOECHELNAYA KLYUCHEVAYA",
    "³DVOECHELNOPOVODNAYA KLYUCHEVAYA³GROMNAYA WITH SINGLE ZAPYATAYA",
    "³GROMOPOVODNAYA WITH SINGLE ZAPYATAYA³GROMNAYA³GROMOPOVODNAYA⁴WITH DOUBLE ZAPYATAYA",
    "³GROMOKRYZHEVAYA⁴POVODNAYA²MECHIK³POVODNY³KLYUCHEVOY³KLYUCHEPOVODNY³KLYUCHENEPOSTOYANNY",
    "²STRELA TRYASOGLASNAYA³TRYASOPOVODNAYA³TRYASOSTRELNAYA²OSOKA³SVETLAYA³TRESVETLAYA",
    "³KRYUKOVAYA SVETLAYA³KLYUCHEVAYA SVETLAYA⁴NEPOSTOYANNAYA²STRELA KRYUKOVAYA⁴POVODNAYA",
    "⁴GROMNAYA WITH SINGLE ZAPYATAYA⁴GROMOPOVODNAYA WITH SINGLE ZAPYATAYA⁴GROMNAYA",
    "⁴GROMOPOVODNAYA⁵WITH DOUBLE ZAPYATAYA⁴GROMOKRYZHEVAYA⁵POVODNAYA⁴TRYASKA²KUFISMA²OBLAKO",
    "²DUDA²NEMKA²PAUK"]⟩]

end BlockLang.CharName
