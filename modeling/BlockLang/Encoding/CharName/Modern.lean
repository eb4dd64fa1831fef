import BlockLang.Encoding.CharName.Basic

/-! # Names of characters of modern scripts -/

namespace BlockLang.CharName

/-- The names of the scripts from Yi to Meetei Mayek. -/
def modern : List Run := [
  ⟨0xa000, [
    "⁰YI SYLLABLE IT²IX²I²IP²IET²IEX²IE²IEP²AT²AX²A²AP²UOX²UO²UOP²OT²OX²O²OP²EX²E²WU²BIT²BIX",
    "²BI²BIP²BIET²BIEX²BIE²BIEP²BAT²BAX²BA²BAP²BUOX²BUO²BUOP²BOT²BOX²BO²BOP²BEX²BE²BEP²BUT",
    "²BUX²BU²BUP²BURX²BUR²BYT²BYX²BY²BYP²BYRX²BYR²PIT²PIX²PI²PIP²PIEX²PIE²PIEP²PAT²PAX²PA²PAP",
    "²PUOX²PUO²PUOP²POT²POX²PO²POP²PUT²PUX²PU²PUP²PURX²PUR²PYT²PYX²PY²PYP²PYRX²PYR²BBIT²BBIX",
    "²BBI²BBIP²BBIET²BBIEX²BBIE²BBIEP²BBAT²BBAX²BBA²BBAP²BBUOX²BBUO²BBUOP²BBOT²BBOX²BBO²BBOP",
    "²BBEX²BBE²BBEP²BBUT²BBUX²BBU²BBUP²BBURX²BBUR²BBYT²BBYX²BBY²BBYP²NBIT²NBIX²NBI²NBIP²NBIEX",
    "²NBIE²NBIEP²NBAT²NBAX²NBA²NBAP²NBOT²NBOX²NBO²NBOP²NBUT²NBUX²NBU²NBUP²NBURX²NBUR²NBYT",
    "²NBYX²NBY²NBYP²NBYRX²NBYR²HMIT²HMIX²HMI²HMIP²HMIEX²HMIE²HMIEP²HMAT²HMAX²HMA²HMAP²HMUOX",
    "²HMUO²HMUOP²HMOT²HMOX²HMO²HMOP²HMUT²HMUX²HMU²HMUP²HMURX²HMUR²HMYX²HMY²HMYP²HMYRX²HMYR",
    "²MIT²MIX²MI²MIP²MIEX²MIE²MIEP²MAT²MAX²MA²MAP²MUOT²MUOX²MUO²MUOP²MOT²MOX²MO²MOP²MEX²ME",
    "²MUT²MUX²MU²MUP²MURX²MUR²MYT²MYX²MY²MYP²FIT²FIX²FI²FIP²FAT²FAX²FA²FAP²FOX²FO²FOP²FUT²FUX",
    "²FU²FUP²FURX²FUR²FYT²FYX²FY²FYP²VIT²VIX²VI²VIP²VIET²VIEX²VIE²VIEP²VAT²VAX²VA²VAP²VOT²VOX",
    "²VO²VOP²VEX²VEP²VUT²VUX²VU²VUP²VURX²VUR²VYT²VYX²VY²VYP²VYRX²VYR²DIT²DIX²DI²DIP²DIEX²DIE",
    "²DIEP²DAT²DAX²DA²DAP²DUOX²DUO²DOT²DOX²DO²DOP²DEX²DE²DEP²DUT²DUX²DU²DUP²DURX²DUR²TIT²TIX",
    "²TI²TIP²TIEX²TIE²TIEP²TAT²TAX²TA²TAP²TUOT²TUOX²TUO²TUOP²TOT²TOX²TO²TOP²TEX²TE²TEP²TUT",
    "²TUX²TU²TUP²TURX²TUR²DDIT²DDIX²DDI²DDIP²DDIEX²DDIE²DDIEP²DDAT²DDAX²DDA²DDAP²DDUOX²DDUO",
    "²DDUOP²DDOT²DDOX²DDO²DDOP²DDEX²DDE²DDEP²DDUT²DDUX²DDU²DDUP²DDURX²DDUR²NDIT²NDIX²NDI²NDIP",
    "²NDIEX²NDIE²NDAT²NDAX²NDA²NDAP²NDOT²NDOX²NDO²NDOP²NDEX²NDE²NDEP²NDUT²NDUX²NDU²NDUP²NDURX",
    "²NDUR²HNIT²HNIX²HNI²HNIP²HNIET²HNIEX²HNIE²HNIEP²HNAT²HNAX²HNA²HNAP²HNUOX²HNUO²HNOT²HNOX",
    "²HNOP²HNEX²HNE²HNEP²HNUT²NIT²NIX²NI²NIP²NIEX²NIE²NIEP²NAX²NA²NAP²NUOX²NUO²NUOP²NOT²NOX",
    "²NO²NOP²NEX²NE²NEP²NUT²NUX²NU²NUP²NURX²NUR²HLIT²HLIX²HLI²HLIP²HLIEX²HLIE²HLIEP²HLAT²HLAX",
    "²HLA²HLAP²HLUOX²HLUO²HLUOP²HLOX²HLO²HLOP²HLEX²HLE²HLEP²HLUT²HLUX²HLU²HLUP²HLURX²HLUR",
    "²HLYT²HLYX²HLY²HLYP²HLYRX²HLYR²LIT²LIX²LI²LIP²LIET²LIEX²LIE²LIEP²LAT²LAX²LA²LAP²LUOT",
    "²LUOX²LUO²LUOP²LOT²LOX²LO²LOP²LEX²LE²LEP²LUT²LUX²LU²LUP²LURX²LUR²LYT²LYX²LY²LYP²LYRX²LYR",
    "²GIT²GIX²GI²GIP²GIET²GIEX²GIE²GIEP²GAT²GAX²GA²GAP²GUOT²GUOX²GUO²GUOP²GOT²GOX²GO²GOP²GET",
    "²GEX²GE²GEP²GUT²GUX²GU²GUP²GURX²GUR²KIT²KIX²KI²KIP²KIEX²KIE²KIEP²KAT²KAX²KA²KAP²KUOX²KUO",
    "²KUOP²KOT²KOX²KO²KOP²KET²KEX²KE²KEP²KUT²KUX²KU²KUP²KURX²KUR²GGIT²GGIX²GGI²GGIEX²GGIE",
    "²GGIEP²GGAT²GGAX²GGA²GGAP²GGUOT²GGUOX²GGUO²GGUOP²GGOT²GGOX²GGO²GGOP²GGET²GGEX²GGE²GGEP",
    "²GGUT²GGUX²GGU²GGUP²GGURX²GGUR²MGIEX²MGIE²MGAT²MGAX²MGA²MGAP²MGUOX²MGUO²MGUOP²MGOT²MGOX",
    "²MGO²MGOP²MGEX²MGE²MGEP²MGUT²MGUX²MGU²MGUP²MGURX²MGUR²HXIT²HXIX²HXI²HXIP²HXIET²HXIEX",
    "²HXIE²HXIEP²HXAT²HXAX²HXA²HXAP²HXUOT²HXUOX²HXUO²HXUOP²HXOT²HXOX²HXO²HXOP²HXEX²HXE²HXEP",
    "²NGIEX²NGIE²NGIEP²NGAT²NGAX²NGA²NGAP²NGUOT²NGUOX²NGUO²NGOT²NGOX²NGO²NGOP²NGEX²NGE²NGEP",
    "²HIT²HIEX²HIE²HAT²HAX²HA²HAP²HUOT²HUOX²HUO²HUOP²HOT²HOX²HO²HOP²HEX²HE²HEP²WAT²WAX²WA²WAP",
    "²WUOX²WUO²WUOP²WOX²WO²WOP²WEX²WE²WEP²ZIT²ZIX²ZI²ZIP²ZIEX²ZIE²ZIEP²ZAT²ZAX²ZA²ZAP²ZUOX",
    "²ZUO²ZUOP²ZOT²ZOX²ZO²ZOP²ZEX²ZE²ZEP²ZUT²ZUX²ZU²ZUP²ZURX²ZUR²ZYT²ZYX²ZY²ZYP²ZYRX²ZYR²CIT",
    "²CIX²CI²CIP²CIET²CIEX²CIE²CIEP²CAT²CAX²CA²CAP²CUOX²CUO²CUOP²COT²COX²CO²COP²CEX²CE²CEP",
    "²CUT²CUX²CU²CUP²CURX²CUR²CYT²CYX²CY²CYP²CYRX²CYR²ZZIT²ZZIX²ZZI²ZZIP²ZZIET²ZZIEX²ZZIE",
    "²ZZIEP²ZZAT²ZZAX²ZZA²ZZAP²ZZOX²ZZO²ZZOP²ZZEX²ZZE²ZZEP²ZZUX²ZZU²ZZUP²ZZURX²ZZUR²ZZYT²ZZYX",
    "²ZZY²ZZYP²ZZYRX²ZZYR²NZIT²NZIX²NZI²NZIP²NZIEX²NZIE²NZIEP²NZAT²NZAX²NZA²NZAP²NZUOX²NZUO",
    "²NZOX²NZOP²NZEX²NZE²NZUX²NZU²NZUP²NZURX²NZUR²NZYT²NZYX²NZY²NZYP²NZYRX²NZYR²SIT²SIX²SI",
    "²SIP²SIEX²SIE²SIEP²SAT²SAX²SA²SAP²SUOX²SUO²SUOP²SOT²SOX²SO²SOP²SEX²SE²SEP²SUT²SUX²SU²SUP",
    "²SURX²SUR²SYT²SYX²SY²SYP²SYRX²SYR²SSIT²SSIX²SSI²SSIP²SSIEX²SSIE²SSIEP²SSAT²SSAX²SSA²SSAP",
    "²SSOT²SSOX²SSO²SSOP²SSEX²SSE²SSEP²SSUT²SSUX²SSU²SSUP²SSYT²SSYX²SSY²SSYP²SSYRX²SSYR²ZHAT",
    "²ZHAX²ZHA²ZHAP²ZHUOX²ZHUO²ZHUOP²ZHOT²ZHOX²ZHO²ZHOP²ZHET²ZHEX²ZHE²ZHEP²ZHUT²ZHUX²ZHU²ZHUP",
    "²ZHURX²ZHUR²ZHYT²ZHYX²ZHY²ZHYP²ZHYRX²ZHYR²CHAT²CHAX²CHA²CHAP²CHUOT²CHUOX²CHUO²CHUOP²CHOT",
    "²CHOX²CHO²CHOP²CHET²CHEX²CHE²CHEP²CHUX²CHU²CHUP²CHURX²CHUR²CHYT²CHYX²CHY²CHYP²CHYRX²CHYR",
    "²RRAX²RRA²RRUOX²RRUO²RROT²RROX²RRO²RROP²RRET²RREX²RRE²RREP²RRUT²RRUX²RRU²RRUP²RRURX²RRUR",
    "²RRYT²RRYX²RRY²RRYP²RRYRX²RRYR²NRAT²NRAX²NRA²NRAP²NROX²NRO²NROP²NRET²NREX²NRE²NREP²NRUT",
    "²NRUX²NRU²NRUP²NRURX²NRUR²NRYT²NRYX²NRY²NRYP²NRYRX²NRYR²SHAT²SHAX²SHA²SHAP²SHUOX²SHUO",
    "²SHUOP²SHOT²SHOX²SHO²SHOP²SHET²SHEX²SHE²SHEP²SHUT²SHUX²SHU²SHUP²SHURX²SHUR²SHYT²SHYX²SHY",
    "²SHYP²SHYRX²SHYR²RAT²RAX²RA²RAP²RUOX²RUO²RUOP²ROT²ROX²RO²ROP²REX²RE²REP²RUT²RUX²RU²RUP",
    "²RURX²RUR²RYT²RYX²RY²RYP²RYRX²RYR²JIT²JIX²JI²JIP²JIET²JIEX²JIE²JIEP²JUOT²JUOX²JUO²JUOP",
    "²JOT²JOX²JO²JOP²JUT²JUX²JU²JUP²JURX²JUR²JYT²JYX²JY²JYP²JYRX²JYR²QIT²QIX²QI²QIP²QIET²QIEX",
    "²QIE²QIEP²QUOT²QUOX²QUO²QUOP²QOT²QOX²QO²QOP²QUT²QUX²QU²QUP²QURX²QUR²QYT²QYX²QY²QYP²QYRX",
    "²QYR²JJIT²JJIX²JJI²JJIP²JJIET²JJIEX²JJIE²JJIEP²JJUOX²JJUO²JJUOP²JJOT²JJOX²JJO²JJOP²JJUT",
    "²JJUX²JJU²JJUP²JJURX²JJUR²JJYT²JJYX²JJY²JJYP²NJIT²NJIX²NJI²NJIP²NJIET²NJIEX²NJIE²NJIEP",
    "²NJUOX²NJUO²NJOT²NJOX²NJO²NJOP²NJUX²NJU²NJUP²NJURX²NJUR²NJYT²NJYX²NJY²NJYP²NJYRX²NJYR",
    "²NYIT²NYIX²NYI²NYIP²NYIET²NYIEX²NYIE²NYIEP²NYUOX²NYUO²NYUOP²NYOT²NYOX²NYO²NYOP²NYUT²NYUX",
    "²NYU²NYUP²XIT²XIX²XI²XIP²XIET²XIEX²XIE²XIEP²XUOX²XUO²XOT²XOX²XO²XOP²XYT²XYX²XY²XYP²XYRX",
    "²XYR²YIT²YIX²YI²YIP²YIET²YIEX²YIE²YIEP²YUOT²YUOX²YUO²YUOP²YOT²YOX²YO²YOP²YUT²YUX²YU²YUP",
    "²YURX²YUR²YYT²YYX²YY²YYP²YYRX²YYR"]⟩,
  ⟨0xa490, [
    "⁰YI RADICAL QOT²LI²KIT²NYIP²CYP²SSI²GGOP²GEP²MI²HXIT²LYR²BBUT²MOP²YO²PUT²HXUO²TAT²GA²ZUP",
    "²CYT²DDUR²BUR²GGUO²NYOP²TU²OP²JJUT²ZOT²PYT²HMO²YIT²VUR²SHY²VEP²ZA²JO²NZUP²JJY²GOT²JJIE",
    "²WO²DU²SHUR²LIE²CY²CUOP²CIP²HXOP²SHAT²ZUR²SHOP²CHE²ZZIET²NBIE²KE"]⟩,
  ⟨0xa4d0, [
    "⁰LISU LETTER BA²PA²PHA²DA²TA²THA²GA²KA²KHA²JA²CA²CHA²DZA²TSA²TSHA²MA²NA²LA²SA²ZHA²ZA²NGA",
    "²HA²XA²HHA²FA²WA²SHA²YA²GHA²A²AE²E²EU²I²O²U²UE²UH²OE²TONE MYA TI³NA PO³MYA CYA⁴BO⁴NA⁴JEU",
    "¹PUNCTUATION COMMA²FULL STOP⁰VAI SYLLABLE EE²EEN²HEE²WEE²WEEN²PEE²BHEE²BEE²MBEE²KPEE",
    "²MGBEE²GBEE²FEE²VEE²TEE²THEE²DHEE²DHHEE²LEE²REE²DEE²NDEE²SEE²SHEE²ZEE²ZHEE²CEE²JEE²NJEE",
    "²YEE²KEE²NGGEE²GEE²MEE²NEE²NYEE²I²IN²HI²HIN²WI²WIN²PI²BHI²BI²MBI²KPI²MGBI²GBI²FI²VI²TI",
    "²THI²DHI²DHHI²LI²RI²DI²NDI²SI²SHI²ZI²ZHI²CI²JI²NJI²YI²KI²NGGI²GI²MI²NI²NYI²A²AN²NGAN²HA",
    "²HAN²WA²WAN²PA²BHA²BA²MBA²KPA²KPAN²MGBA²GBA²FA²VA²TA²THA²DHA²DHHA²LA²RA²DA²NDA²SA²SHA²ZA",
    "²ZHA²CA²JA²NJA²YA²KA²KAN²NGGA²GA²MA²NA²NYA²OO²OON²HOO²WOO²WOON²POO²BHOO²BOO²MBOO²KPOO",
    "²MGBOO²GBOO²FOO²VOO²TOO²THOO²DHOO²DHHOO²LOO²ROO²DOO²NDOO²SOO²SHOO²ZOO²ZHOO²COO²JOO²NJOO",
    "²YOO²KOO²NGGOO²GOO²MOO²NOO²NYOO²U²UN²HU²HUN²WU²WUN²PU²BHU²BU²MBU²KPU²MGBU²GBU²FU²VU²TU",
    "²THU²DHU²DHHU²LU²RU²DU²NDU²SU²SHU²ZU²ZHU²CU²JU²NJU²YU²KU²NGGU²GU²MU²NU²NYU²O²ON²NGON²HO",
    "²HON²WO²WON²PO²BHO²BO²MBO²KPO²MGBO²GBO²GBON²FO²VO²TO²THO²DHO²DHHO²LO²RO²DO²NDO²SO²SHO²ZO",
    "²ZHO²CO²JO²NJO²YO²KO²NGGO²GO²MO²NO²NYO²E²EN²NGEN²HE²HEN²WE²WEN²PE²BHE²BE²MBE²KPE²KPEN",
    "²MGBE²GBE²GBEN²FE²VE²TE²THE²DHE²DHHE²LE²RE²DE²NDE²SE²SHE²ZE²ZHE²CE²JE²NJE²YE²KE²NGGE",
    "²NGGEN²GE²GEN²ME²NE²NYE²NG²LENGTHENER¹COMMA¹FULL STOP¹QUESTION MARK¹SYLLABLE NDOLE FA³KA",
    "³SOO¹SYMBOL FEENG²KEENG²TING²NII²BANG²FAA²TAA²DANG²DOONG²KUNG²TONG²DO-O²JONG¹DIGIT ZERO",
    "²ONE²TWO²THREE²FOUR²FIVE²SIX²SEVEN²EIGHT²NINE¹SYLLABLE NDOLE MA³DO"]⟩,
  ⟨0xa640, [
    "⁰CYRILLIC CAPITAL LETTER ZEMLYA¹SMALL LETTER ZEMLYA¹CAPITAL LETTER DZELO",
    "¹SMALL LETTER DZELO¹CAPITAL LETTER REVERSED DZE¹SMALL LETTER REVERSED DZE",
    "¹CAPITAL LETTER IOTA¹SMALL LETTER IOTA¹CAPITAL LETTER DJERV¹SMALL LETTER DJERV",
    "¹CAPITAL LETTER MONOGRAPH UK¹SMALL LETTER MONOGRAPH UK¹CAPITAL LETTER BROAD OMEGA",
    "¹SMALL LETTER BROAD OMEGA¹CAPITAL LETTER NEUTRAL YER¹SMALL LETTER NEUTRAL YER",
    "¹CAPITAL LETTER YERU WITH BACK YER¹SMALL LETTER YERU WITH BACK YER",
    "¹CAPITAL LETTER IOTIFIED YAT¹SMALL LETTER IOTIFIED YAT¹CAPITAL LETTER REVERSED YU",
    "¹SMALL LETTER REVERSED YU¹CAPITAL LETTER IOTIFIED A¹SMALL LETTER IOTIFIED A",
    "¹CAPITAL LETTER CLOSED LITTLE YUS¹SMALL LETTER CLOSED LITTLE YUS",
    "¹CAPITAL LETTER BLENDED YUS¹SMALL LETTER BLENDED YUS",
    "¹CAPITAL LETTER IOTIFIED CLOSED LITTLE YUS¹SMALL LETTER IOTIFIED CLOSED LITTLE YUS",
    "¹CAPITAL LETTER YN¹SMALL LETTER YN¹CAPITAL LETTER REVERSED TSE¹SMALL LETTER REVERSED TSE",
    "¹CAPITAL LETTER SOFT DE¹SMALL LETTER SOFT DE¹CAPITAL LETTER SOFT EL¹SMALL LETTER SOFT EL",
    "¹CAPITAL LETTER SOFT EM¹SMALL LETTER SOFT EM¹CAPITAL LETTER MONOCULAR O",
    "¹SMALL LETTER MONOCULAR O¹CAPITAL LETTER BINOCULAR O¹SMALL LETTER BINOCULAR O",
    "¹CAPITAL LETTER DOUBLE MONOCULAR O¹SMALL LETTER DOUBLE MONOCULAR O¹LETTER MULTIOCULAR O",
    "⁰COMBINING CYRILLIC VZMET²TEN MILLIONS SIGN²HUNDRED MILLIONS SIGN²THOUSAND MILLIONS SIGN",
    "⁰SLAVONIC ASTERISK⁰COMBINING CYRILLIC LETTER UKRAINIAN IE³I³YI³U³HARD SIGN³YERU",
    "³SOFT SIGN³OMEGA²KAVYKA²PAYEROK⁰CYRILLIC KAVYKA¹PAYEROK¹CAPITAL LETTER DWE",
    "¹SMALL LETTER DWE¹CAPITAL LETTER DZWE¹SMALL LETTER DZWE¹CAPITAL LETTER ZHWE",
    "¹SMALL LETTER ZHWE¹CAPITAL LETTER CCHE¹SMALL LETTER CCHE¹CAPITAL LETTER DZZE",
    "¹SMALL LETTER DZZE¹CAPITAL LETTER TE WITH MIDDLE HOOK¹SMALL LETTER TE WITH MIDDLE HOOK",
    "¹CAPITAL LETTER TWE¹SMALL LETTER TWE¹CAPITAL LETTER TSWE¹SMALL LETTER TSWE",
    "¹CAPITAL LETTER TSSE¹SMALL LETTER TSSE¹CAPITAL LETTER TCHE¹SMALL LETTER TCHE",
    "¹CAPITAL LETTER HWE¹SMALL LETTER HWE¹CAPITAL LETTER SHWE¹SMALL LETTER SHWE",
    "¹CAPITAL LETTER DOUBLE O¹SMALL LETTER DOUBLE O¹CAPITAL LETTER CROSSED O",
    "¹SMALL LETTER CROSSED O⁰MODIFIER LETTER CYRILLIC HARD SIGN³SOFT SIGN",
    "⁰COMBINING CYRILLIC LETTER EF³IOTIFIED E⁰BAMUM LETTER A²KA²U²KU²EE²REE²TAE²O²NYI²I²LA²PA",
    "²RII²RIEE²LEEEE²MEEEE²TAA²NDAA²NJAEM²M²SUU²MU²SHII²SI²SHEUX²SEUX²KYEE²KET²NUAE²NU²NJUAE",
    "²YOQ²SHU²YUQ²YA²NSHA²KEUX²PEUX²NJEE²NTEE²PUE²WUE²PEE²FEE²RU²LU²MI²NI²REUX²RAE²KEN",
    "²NGKWAEN²NGGA²NGA²SHO²PUAE²FU²FOM²WA²NA²LI²PI²LOQ²KO²MBEN²REN²MEN²MA²TI²KI²MO²MBAA²TET",
    "²KPA²TEN²NTUU²SAMBA²FAAMAE²KOVUU²KOGHOM¹COMBINING MARK KOQNDON³TUKWENTIS¹NJAEMLI",
    "¹FULL STOP¹COLON¹COMMA¹SEMICOLON¹QUESTION MARK"]⟩,
  ⟨0xa700, [
    "⁰MODIFIER LETTER CHINESE TONE YIN PING⁴YANG PING⁴YIN SHANG⁴YANG SHANG⁴YIN QU⁴YANG QU",
    "⁴YIN RU⁴YANG RU²EXTRA-HIGH DOTTED TONE BAR²HIGH DOTTED TONE BAR²MID DOTTED TONE BAR",
    "²LOW DOTTED TONE BAR²EXTRA-LOW DOTTED TONE BAR²EXTRA-HIGH DOTTED LEFT-STEM TONE BAR",
    "²HIGH DOTTED LEFT-STEM TONE BAR²MID DOTTED LEFT-STEM TONE BAR",
    "²LOW DOTTED LEFT-STEM TONE BAR²EXTRA-LOW DOTTED LEFT-STEM TONE BAR",
    "²EXTRA-HIGH LEFT-STEM TONE BAR²HIGH LEFT-STEM TONE BAR²MID LEFT-STEM TONE BAR",
    "²LOW LEFT-STEM TONE BAR²EXTRA-LOW LEFT-STEM TONE BAR²DOT VERTICAL BAR³SLASH",
    "³HORIZONTAL BAR²LOWER RIGHT CORNER ANGLE²RAISED UP ARROW³DOWN ARROW³EXCLAMATION MARK",
    "³INVERTED EXCLAMATION MARK²LOW INVERTED EXCLAMATION MARK²STRESS AND HIGH TONE⁴LOW TONE",
    "⁰LATIN CAPITAL LETTER EGYPTOLOGICAL ALEF¹SMALL LETTER EGYPTOLOGICAL ALEF",
    "¹CAPITAL LETTER EGYPTOLOGICAL AIN¹SMALL LETTER EGYPTOLOGICAL AIN¹CAPITAL LETTER HENG",
    "¹SMALL LETTER HENG¹CAPITAL LETTER TZ¹SMALL LETTER TZ¹CAPITAL LETTER TRESILLO",
    "¹SMALL LETTER TRESILLO¹CAPITAL LETTER CUATRILLO¹SMALL LETTER CUATRILLO",
    "¹CAPITAL LETTER CUATRILLO WITH COMMA¹SMALL LETTER CUATRILLO WITH COMMA",
    "¹LETTER SMALL CAPITAL F⁴S¹CAPITAL LETTER AA¹SMALL LETTER AA¹CAPITAL LETTER AO",
    "¹SMALL LETTER AO¹CAPITAL LETTER AU¹SMALL LETTER AU¹CAPITAL LETTER AV¹SMALL LETTER AV",
    "¹CAPITAL LETTER AV WITH HORIZONTAL BAR¹SMALL LETTER AV WITH HORIZONTAL BAR",
    "¹CAPITAL LETTER AY¹SMALL LETTER AY¹CAPITAL LETTER REVERSED C WITH DOT",
    "¹SMALL LETTER REVERSED C WITH DOT¹CAPITAL LETTER K WITH STROKE",
    "¹SMALL LETTER K WITH STROKE¹CAPITAL LETTER K WITH DIAGONAL STROKE",
    "¹SMALL LETTER K WITH DIAGONAL STROKE¹CAPITAL LETTER K WITH STROKE AND DIAGONAL STROKE",
    "¹SMALL LETTER K WITH STROKE AND DIAGONAL STROKE¹CAPITAL LETTER BROKEN L",
    "¹SMALL LETTER BROKEN L¹CAPITAL LETTER L WITH HIGH STROKE¹SMALL LETTER L WITH HIGH STROKE",
    "¹CAPITAL LETTER O WITH LONG STROKE OVERLAY¹SMALL LETTER O WITH LONG STROKE OVERLAY",
    "¹CAPITAL LETTER O WITH LOOP¹SMALL LETTER O WITH LOOP¹CAPITAL LETTER OO¹SMALL LETTER OO",
    "¹CAPITAL LETTER P WITH STROKE THROUGH DESCENDER",
    "¹SMALL LETTER P WITH STROKE THROUGH DESCENDER¹CAPITAL LETTER P WITH FLOURISH",
    "¹SMALL LETTER P WITH FLOURISH¹CAPITAL LETTER P WITH SQUIRREL TAIL",
    "¹SMALL LETTER P WITH SQUIRREL TAIL¹CAPITAL LETTER Q WITH STROKE THROUGH DESCENDER",
    "¹SMALL LETTER Q WITH STROKE THROUGH DESCENDER¹CAPITAL LETTER Q WITH DIAGONAL STROKE",
    "¹SMALL LETTER Q WITH DIAGONAL STROKE¹CAPITAL LETTER R ROTUNDA¹SMALL LETTER R ROTUNDA",
    "¹CAPITAL LETTER RUM ROTUNDA¹SMALL LETTER RUM ROTUNDA",
    "¹CAPITAL LETTER V WITH DIAGONAL STROKE¹SMALL LETTER V WITH DIAGONAL STROKE",
    "¹CAPITAL LETTER VY¹SMALL LETTER VY¹CAPITAL LETTER VISIGOTHIC Z¹SMALL LETTER VISIGOTHIC Z",
    "¹CAPITAL LETTER THORN WITH STROKE¹SMALL LETTER THORN WITH STROKE",
    "¹CAPITAL LETTER THORN WITH STROKE THROUGH DESCENDER",
    "¹SMALL LETTER THORN WITH STROKE THROUGH DESCENDER¹CAPITAL LETTER VEND¹SMALL LETTER VEND",
    "¹CAPITAL LETTER ET¹SMALL LETTER ET¹CAPITAL LETTER IS¹SMALL LETTER IS¹CAPITAL LETTER CON",
    "¹SMALL LETTER CON⁰MODIFIER LETTER US⁰LATIN SMALL LETTER DUM³LUM³MUM³NUM³RUM",
    "¹LETTER SMALL CAPITAL RUM¹SMALL LETTER TUM³UM¹CAPITAL LETTER INSULAR D",
    "¹SMALL LETTER INSULAR D¹CAPITAL LETTER INSULAR F¹SMALL LETTER INSULAR F",
    "¹CAPITAL LETTER INSULAR G³TURNED INSULAR G¹SMALL LETTER TURNED INSULAR G",
    "¹CAPITAL LETTER TURNED L¹SMALL LETTER TURNED L¹CAPITAL LETTER INSULAR R",
    "¹SMALL LETTER INSULAR R¹CAPITAL LETTER INSULAR S¹SMALL LETTER INSULAR S",
    "¹CAPITAL LETTER INSULAR T¹SMALL LETTER INSULAR T⁰MODIFIER LETTER LOW CIRCUMFLEX ACCENT",
    "²COLON²SHORT EQUALS SIGN⁰LATIN CAPITAL LETTER SALTILLO¹SMALL LETTER SALTILLO",
    "¹CAPITAL LETTER TURNED H¹SMALL LETTER L WITH RETROFLEX HOOK AND BELT",
    "¹LETTER SINOLOGICAL DOT¹CAPITAL LETTER N WITH DESCENDER¹SMALL LETTER N WITH DESCENDER",
    "¹CAPITAL LETTER C WITH BAR¹SMALL LETTER C WITH BAR⁵PALATAL HOOK³H WITH PALATAL HOOK",
    "¹CAPITAL LETTER B WITH FLOURISH¹SMALL LETTER B WITH FLOURISH",
    "¹CAPITAL LETTER F WITH STROKE¹SMALL LETTER F WITH STROKE¹CAPITAL LETTER VOLAPUK AE",
    "¹SMALL LETTER VOLAPUK AE¹CAPITAL LETTER VOLAPUK OE¹SMALL LETTER VOLAPUK OE",
    "¹CAPITAL LETTER VOLAPUK UE¹SMALL LETTER VOLAPUK UE¹CAPITAL LETTER G WITH OBLIQUE STROKE",
    "¹SMALL LETTER G WITH OBLIQUE STROKE¹CAPITAL LETTER K WITH OBLIQUE STROKE",
    "¹SMALL LETTER K WITH OBLIQUE STROKE¹CAPITAL LETTER N WITH OBLIQUE STROKE",
    "¹SMALL LETTER N WITH OBLIQUE STROKE¹CAPITAL LETTER R WITH OBLIQUE STROKE",
    "¹SMALL LETTER R WITH OBLIQUE STROKE¹CAPITAL LETTER S WITH OBLIQUE STROKE",
    "¹SMALL LETTER S WITH OBLIQUE STROKE¹CAPITAL LETTER H WITH HOOK³REVERSED OPEN E³SCRIPT G",
    "³L WITH BELT³SMALL CAPITAL I¹LETTER SMALL CAPITAL Q¹CAPITAL LETTER TURNED K⁴T",
    "³J WITH CROSSED-TAIL³CHI³BETA¹SMALL LETTER BETA¹CAPITAL LETTER OMEGA¹SMALL LETTER OMEGA",
    "¹CAPITAL LETTER U WITH STROKE¹SMALL LETTER U WITH STROKE¹CAPITAL LETTER GLOTTAL A",
    "¹SMALL LETTER GLOTTAL A¹CAPITAL LETTER GLOTTAL I¹SMALL LETTER GLOTTAL I",
    "¹CAPITAL LETTER GLOTTAL U¹SMALL LETTER GLOTTAL U¹CAPITAL LETTER OLD POLISH O",
    "¹SMALL LETTER OLD POLISH O¹CAPITAL LETTER ANGLICANA W¹SMALL LETTER ANGLICANA W",
    "¹CAPITAL LETTER C WITH PALATAL HOOK³S WITH HOOK³Z WITH PALATAL HOOK",
    "³D WITH SHORT STROKE OVERLAY¹SMALL LETTER D WITH SHORT STROKE OVERLAY",
    "¹CAPITAL LETTER S WITH SHORT STROKE OVERLAY¹SMALL LETTER S WITH SHORT STROKE OVERLAY"]⟩,
  ⟨0xa7d0, ["⁰LATIN CAPITAL LETTER CLOSED INSULAR G¹SMALL LETTER CLOSED INSULAR G"]⟩,
  ⟨0xa7d3, ["⁰LATIN SMALL LETTER DOUBLE THORN"]⟩,
  ⟨0xa7d5, [
    "⁰LATIN SMALL LETTER DOUBLE WYNN¹CAPITAL LETTER MIDDLE SCOTS S",
    "¹SMALL LETTER MIDDLE SCOTS S¹CAPITAL LETTER SIGMOID S¹SMALL LETTER SIGMOID S"]⟩,
  ⟨0xa7f2, [
    "⁰MODIFIER LETTER CAPITAL C³F³Q⁰LATIN CAPITAL LETTER REVERSED HALF H",
    "¹SMALL LETTER REVERSED HALF H¹EPIGRAPHIC LETTER SIDEWAYS I",
    "⁰MODIFIER LETTER CAPITAL H WITH STROKE²SMALL LIGATURE OE",
    "⁰LATIN LETTER SMALL CAPITAL TURNED M¹EPIGRAPHIC LETTER REVERSED F⁴P³INVERTED M³I LONGA",
    "³ARCHAIC M⁰SYLOTI NAGRI LETTER A³I²SIGN DVISVARA²LETTER U³E³O²SIGN HASANTA²LETTER KO³KHO",
    "³GO³GHO²SIGN ANUSVARA²LETTER CO³CHO³JO³JHO³TTO³TTHO³DDO³DDHO³TO³THO³DO³DHO³NO³PO³PHO³BO",
    "³BHO³MO³RO³LO³RRO³SO³HO²VOWEL SIGN A⁴I⁴U⁴E⁴OO²POETRY MARK-1³MARK-2³MARK-3³MARK-4",
    "²SIGN ALTERNATE HASANTA"]⟩,
  ⟨0xa830, [
    "⁰NORTH INDIC FRACTION ONE QUARTER⁴HALF³THREE QUARTERS³ONE SIXTEENTH⁴EIGHTH",
    "³THREE SIXTEENTHS²QUARTER MARK²PLACEHOLDER MARK²RUPEE MARK²QUANTITY MARK"]⟩,
  ⟨0xa840, [
    "⁰PHAGS-PA LETTER KA²KHA²GA²NGA²CA²CHA²JA²NYA²TA²THA²DA²NA²PA²PHA²BA²MA²TSA²TSHA²DZA²WA",
    "²ZHA²ZA²SMALL A²YA²RA²LA²SHA²SA²HA²A²I²U²E²O²QA²XA²FA²GGA²EE¹SUBJOINED LETTER WA³YA",
    "¹LETTER TTA²TTHA²DDA²NNA²ALTERNATE YA²VOICELESS SHA²VOICED HA²ASPIRATED FA",
    "¹SUBJOINED LETTER RA¹SUPERFIXED LETTER RA¹LETTER CANDRABINDU¹SINGLE HEAD MARK",
    "¹DOUBLE HEAD MARK¹MARK SHAD²DOUBLE SHAD"]⟩,
  ⟨0xa880, [
    "⁰SAURASHTRA SIGN ANUSVARA²VISARGA¹LETTER A²AA²I²II²U²UU²VOCALIC R³RR³L³LL²E²EE²AI²O²OO",
    "²AU²KA²KHA²GA²GHA²NGA²CA²CHA²JA²JHA²NYA²TTA²TTHA²DDA²DDHA²NNA²TA²THA²DA²DHA²NA²PA²PHA²BA",
    "²BHA²MA²YA²RA²LA²VA²SHA²SSA²SA²HA²LLA¹CONSONANT SIGN HAARU¹VOWEL SIGN AA³I³II³U³UU",
    "³VOCALIC R⁴RR⁴L⁴LL³E³EE³AI³O³OO³AU¹SIGN VIRAMA²CANDRABINDU"]⟩,
  ⟨0xa8ce, [
    "⁰SAURASHTRA DANDA¹DOUBLE DANDA¹DIGIT ZERO²ONE²TWO²THREE²FOUR²FIVE²SIX²SEVEN²EIGHT²NINE"]⟩,
  ⟨0xa8e0, [
    "⁰COMBINING DEVANAGARI DIGIT ZERO³ONE³TWO³THREE³FOUR³FIVE³SIX³SEVEN³EIGHT³NINE²LETTER A³U",
    "³KA³NA³PA³RA³VI²SIGN AVAGRAHA⁰DEVANAGARI SIGN SPACING CANDRABINDU²CANDRABINDU VIRAMA",
    "²DOUBLE CANDRABINDU VIRAMA²CANDRABINDU TWO³THREE³AVAGRAHA²PUSHPIKA¹GAP FILLER¹CARET",
    "¹HEADSTROKE¹SIGN SIDDHAM¹JAIN OM¹LETTER AY¹VOWEL SIGN AY⁰KAYAH LI DIGIT ZERO³ONE³TWO",
    "³THREE³FOUR³FIVE³SIX³SEVEN³EIGHT³NINE²LETTER KA³KHA³GA³NGA³SA³SHA³ZA³NYA³TA³HTA³NA³PA",
    "³PHA³MA³DA³BA³RA³YA³LA³WA³THA³HA³VA³CA³A³OE³I³OO²VOWEL UE³E³U³EE³O²TONE PLOPHU³CALYA",
    "⁴PLOPHU²SIGN CWI³SHYA⁰REJANG LETTER KA²GA²NGA²TA²DA²NA²PA²BA²MA²CA²JA²NYA²SA²RA²LA²YA²WA",
    "²HA²MBA²NGGA²NDA²NYJA²A¹VOWEL SIGN I³U³E³AI³O³AU³EU³EA¹CONSONANT SIGN NG³N³R³H¹VIRAMA"]⟩,
  ⟨0xa95f, [
    "⁰REJANG SECTION MARK⁰HANGUL CHOSEONG TIKEUT-MIEUM²TIKEUT-PIEUP²TIKEUT-SIOS²TIKEUT-CIEUC",
    "²RIEUL-KIYEOK²RIEUL-SSANGKIYEOK²RIEUL-TIKEUT²RIEUL-SSANGTIKEUT²RIEUL-MIEUM²RIEUL-PIEUP",
    "²RIEUL-SSANGPIEUP²RIEUL-KAPYEOUNPIEUP²RIEUL-SIOS²RIEUL-CIEUC²RIEUL-KHIEUKH²MIEUM-KIYEOK",
    "²MIEUM-TIKEUT²MIEUM-SIOS²PIEUP-SIOS-THIEUTH²PIEUP-KHIEUKH²PIEUP-HIEUH²SSANGSIOS-PIEUP",
    "²IEUNG-RIEUL²IEUNG-HIEUH²SSANGCIEUC-HIEUH²SSANGTHIEUTH²PHIEUPH-HIEUH²HIEUH-SIOS",
    "²SSANGYEORINHIEUH"]⟩,
  ⟨0xa980, [
    "⁰JAVANESE SIGN PANYANGGA²CECAK²LAYAR²WIGNYAN¹LETTER A²I KAWI²I²II²U²PA CEREK²NGA LELET",
    "⁴RASWADI²E²AI²O²KA³SASAK³MURDA²GA³MURDA²NGA²CA³MURDA²JA²NYA MURDA²JA MAHAPRANA²NYA²TTA",
    "³MAHAPRANA²DDA³MAHAPRANA²NA MURDA²TA³MURDA²DA³MAHAPRANA²NA²PA³MURDA²BA³MURDA²MA²YA²RA",
    "³AGUNG²LA²WA²SA MURDA³MAHAPRANA²SA²HA¹SIGN CECAK TELU¹VOWEL SIGN TARUNG³TOLONG³WULU",
    "⁴MELIK³SUKU⁴MENDUT³TALING³DIRGA MURE³PEPET¹CONSONANT SIGN KERET³PENGKAL³CAKRA¹PANGKON",
    "¹LEFT RERENGGAN¹RIGHT RERENGGAN¹PADA ANDAP²MADYA²LUHUR²WINDU²PANGKAT²LINGSA²LUNGSI²ADEG",
    "³ADEG²PISELEH¹TURNED PADA PISELEH"]⟩,
  ⟨0xa9cf, [
    "⁰JAVANESE PANGRANGKEP¹DIGIT ZERO²ONE²TWO²THREE²FOUR²FIVE²SIX²SEVEN²EIGHT²NINE"]⟩,
  ⟨0xa9de, [
    "⁰JAVANESE PADA TIRTA TUMETES²ISEN-ISEN⁰MYANMAR LETTER SHAN GHA³CHA³JHA³NNA³BHA",
    "¹SIGN SHAN SAW¹MODIFIER LETTER SHAN REDUPLICATION¹LETTER TAI LAING NYA⁴FA⁴GA⁴GHA⁴JA⁴JHA",
    "⁴DDA⁴DDHA⁴NNA¹TAI LAING DIGIT ZERO⁴ONE⁴TWO⁴THREE⁴FOUR⁴FIVE⁴SIX⁴SEVEN⁴EIGHT⁴NINE",
    "¹LETTER TAI LAING LLA⁴DA⁴DHA⁴BA⁴BHA"]⟩,
  ⟨0xaa00, [
    "⁰CHAM LETTER A²I²U²E²AI²O²KA²KHA²GA²GHA²NGUE²NGA²CHA²CHHA²JA²JHA²NHUE²NHA²NHJA²TA²THA²DA",
    "²DHA²NUE²NA²DDA²PA²PPA²PHA²BA²BHA²MUE²MA²BBA²YA²RA²LA²VA²SSA²SA²HA¹VOWEL SIGN AA³I³II³EI",
    "³U³OE³O³AI³AU³UE¹CONSONANT SIGN YA³RA³LA³WA"]⟩,
  ⟨0xaa40, [
    "⁰CHAM LETTER FINAL K³G³NG¹CONSONANT SIGN FINAL NG¹LETTER FINAL CH³T³N³P³Y³R³L³SS",
    "¹CONSONANT SIGN FINAL M⁴H"]⟩,
  ⟨0xaa50, ["⁰CHAM DIGIT ZERO²ONE²TWO²THREE²FOUR²FIVE²SIX²SEVEN²EIGHT²NINE"]⟩,
  ⟨0xaa5c, [
    "⁰CHAM PUNCTUATION SPIRAL²DANDA²DOUBLE DANDA²TRIPLE DANDA⁰MYANMAR LETTER KHAMTI GA³CA³CHA",
    "³JA³JHA³NYA³TTA³TTHA³DDA³DDHA³DHA³NA³SA³HA³HHA³FA¹MODIFIER LETTER KHAMTI REDUPLICATION",
    "¹LETTER KHAMTI XA³ZA³RA¹LOGOGRAM KHAMTI OAY³QN³HM¹SYMBOL AITON EXCLAMATION³ONE³TWO",
    "¹LETTER AITON RA¹SIGN PAO KAREN TONE²TAI LAING TONE-2⁴TONE-5¹LETTER SHWE PALAUNG CHA⁴SHA",
    "⁰TAI VIET LETTER LOW KO³HIGH KO³LOW KHO³HIGH KHO³LOW KHHO³HIGH KHHO³LOW GO³HIGH GO",
    "³LOW NGO³HIGH NGO³LOW CO³HIGH CO³LOW CHO³HIGH CHO³LOW SO³HIGH SO³LOW NYO³HIGH NYO³LOW DO",
    "³HIGH DO³LOW TO³HIGH TO³LOW THO³HIGH THO³LOW NO³HIGH NO³LOW BO³HIGH BO³LOW PO³HIGH PO",
    "³LOW PHO³HIGH PHO³LOW FO³HIGH FO³LOW MO³HIGH MO³LOW YO³HIGH YO³LOW RO³HIGH RO³LOW LO",
    "³HIGH LO³LOW VO³HIGH VO³LOW HO³HIGH HO³LOW O³HIGH O²MAI KANG²VOWEL AA³I³UE³U³E³O",
    "²MAI KHIT²VOWEL IA³UEA³UA³AUE³AY³AN³AM²TONE MAI EK⁴NUENG⁴THO⁴SONG"]⟩,
  ⟨0xaadb, [
    "⁰TAI VIET SYMBOL KON³NUENG³SAM³HO HOI³KOI KOI⁰MEETEI MAYEK LETTER E³O³CHA³NYA³TTA³TTHA",
    "³DDA³DDHA³NNA³SHA³SSA²VOWEL SIGN II⁴UU⁴AAI⁴AU⁴AAU²CHEIKHAN²AHANG KHUDAM²ANJI",
    "²SYLLABLE REPETITION MARK²WORD REPETITION MARK²VOWEL SIGN VISARGA²VIRAMA"]⟩,
  ⟨0xab01, ["⁰ETHIOPIC SYLLABLE TTHU²TTHI²TTHAA²TTHEE²TTHE²TTHO"]⟩,
  ⟨0xab09, ["⁰ETHIOPIC SYLLABLE DDHU²DDHI²DDHAA²DDHEE²DDHE²DDHO"]⟩,
  ⟨0xab11, ["⁰ETHIOPIC SYLLABLE DZU²DZI²DZAA²DZEE²DZE²DZO"]⟩,
  ⟨0xab20, ["⁰ETHIOPIC SYLLABLE CCHHA²CCHHU²CCHHI²CCHHAA²CCHHEE²CCHHE²CCHHO"]⟩,
  ⟨0xab28, ["⁰ETHIOPIC SYLLABLE BBA²BBU²BBI²BBAA²BBEE²BBE²BBO"]⟩,
  ⟨0xab30, [
    "⁰LATIN SMALL LETTER BARRED ALPHA³A REVERSED-SCHWA³BLACKLETTER E³BARRED E³E WITH FLOURISH",
    "³LENIS F³SCRIPT G WITH CROSSED-TAIL³L WITH INVERTED LAZY S⁵DOUBLE MIDDLE TILDE",
    "⁵MIDDLE RING³M WITH CROSSED-TAIL³N WITH CROSSED-TAIL³ENG WITH CROSSED-TAIL³BLACKLETTER O",
    "⁵WITH STROKE³OPEN O WITH STROKE³INVERTED OE³TURNED OE WITH STROKE⁶HORIZONTAL STROKE",
    "⁴O OPEN-O⁶WITH STROKE³STIRRUP R¹LETTER SMALL CAPITAL R WITH RIGHT LEG",
    "¹SMALL LETTER R WITHOUT HANDLE³DOUBLE R³R WITH CROSSED-TAIL³DOUBLE R WITH CROSSED-TAIL",
    "³SCRIPT R⁵WITH RING³BASELINE ESH³U WITH SHORT RIGHT LEG⁴BAR WITH SHORT RIGHT LEG³UI",
    "³TURNED UI³U WITH LEFT HOOK³CHI⁴WITH LOW RIGHT RING⁶LEFT SERIF³X WITH LOW RIGHT RING",
    "⁵LONG LEFT LEG⁸AND LOW RIGHT RING⁸WITH SERIF³Y WITH SHORT RIGHT LEG",
    "⁰MODIFIER BREVE WITH INVERTED BREVE¹LETTER SMALL HENG³L WITH INVERTED LAZY S",
    "⁵MIDDLE TILDE³U WITH LEFT HOOK⁰LATIN SMALL LETTER SAKHA YAT³IOTIFIED E³OPEN OE³UO",
    "³INVERTED ALPHA⁰GREEK LETTER SMALL CAPITAL OMEGA",
    "⁰LATIN SMALL LETTER DZ DIGRAPH WITH RETROFLEX HOOK³TS DIGRAPH WITH RETROFLEX HOOK",
    "³TURNED R WITH MIDDLE TILDE⁰MODIFIER LETTER SMALL TURNED W²LEFT TACK²RIGHT TACK"]⟩,
  ⟨0xab70, [
    "⁰CHEROKEE SMALL LETTER A³E³I³O³U³V³GA³KA³GE³GI³GO³GU³GV³HA³HE³HI³HO³HU³HV³LA³LE³LI³LO³LU",
    "³LV³MA³ME³MI³MO³MU³NA³HNA³NAH³NE³NI³NO³NU³NV³QUA³QUE³QUI³QUO³QUU³QUV³SA³S³SE³SI³SO³SU³SV",
    "³DA³TA³DE³TE³DI³TI³DO³DU³DV³DLA³TLA³TLE³TLI³TLO³TLU³TLV³TSA³TSE³TSI³TSO³TSU³TSV³WA³WE³WI",
    "³WO³WU³WV³YA⁰MEETEI MAYEK LETTER KOK³SAM³LAI³MIT³PA³NA³CHIL³TIL³KHOU³NGOU³THOU³WAI³YANG",
    "³HUK³UN³I³PHAM³ATIYA³GOK³JHAM³RAI³BA³JIL³DIL³GHOU³DHOU³BHAM³KOK LONSUM³LAI LONSUM",
    "³MIT LONSUM³PA LONSUM³NA LONSUM³TIL LONSUM³NGOU LONSUM³I LONSUM²VOWEL SIGN ONAP⁴INAP",
    "⁴ANAP⁴YENAP⁴SOUNAP⁴UNAP⁴CHEINAP⁴NUNG²CHEIKHEI²LUM IYEK²APUN IYEK"]⟩,
  ⟨0xabf0, ["⁰MEETEI MAYEK DIGIT ZERO³ONE³TWO³THREE³FOUR³FIVE³SIX³SEVEN³EIGHT³NINE"]⟩,
  ⟨0xd7b0, [
    "⁰HANGUL JUNGSEONG O-YEO²O-O-I²YO-A²YO-AE²YO-EO²U-YEO²U-I-I²YU-AE²YU-O²EU-A²EU-EO²EU-E",
    "²EU-O²I-YA-O²I-YAE²I-YEO²I-YE²I-O-I²I-YO²I-YU²I-I²ARAEA-A²ARAEA-E"]⟩,
  ⟨0xd7cb, [
    "⁰HANGUL JONGSEONG NIEUN-RIEUL²NIEUN-CHIEUCH²SSANGTIKEUT²SSANGTIKEUT-PIEUP²TIKEUT-PIEUP",
    "²TIKEUT-SIOS²TIKEUT-SIOS-KIYEOK²TIKEUT-CIEUC²TIKEUT-CHIEUCH²TIKEUT-THIEUTH",
    "²RIEUL-SSANGKIYEOK²RIEUL-KIYEOK-HIEUH²SSANGRIEUL-KHIEUKH²RIEUL-MIEUM-HIEUH",
    "²RIEUL-PIEUP-TIKEUT²RIEUL-PIEUP-PHIEUPH²RIEUL-YESIEUNG²RIEUL-YEORINHIEUH-HIEUH",
    "²KAPYEOUNRIEUL²MIEUM-NIEUN²MIEUM-SSANGNIEUN²SSANGMIEUM²MIEUM-PIEUP-SIOS²MIEUM-CIEUC",
    "²PIEUP-TIKEUT²PIEUP-RIEUL-PHIEUPH²PIEUP-MIEUM²SSANGPIEUP²PIEUP-SIOS-TIKEUT²PIEUP-CIEUC",
    "²PIEUP-CHIEUCH²SIOS-MIEUM²SIOS-KAPYEOUNPIEUP²SSANGSIOS-KIYEOK²SSANGSIOS-TIKEUT",
    "²SIOS-PANSIOS²SIOS-CIEUC²SIOS-CHIEUCH²SIOS-THIEUTH²SIOS-HIEUH²PANSIOS-PIEUP",
    "²PANSIOS-KAPYEOUNPIEUP²YESIEUNG-MIEUM²YESIEUNG-HIEUH²CIEUC-PIEUP²CIEUC-SSANGPIEUP",
    "²SSANGCIEUC²PHIEUPH-SIOS²PHIEUPH-THIEUTH"]⟩]

end BlockLang.CharName
