import BlockLang.Encoding.CharName.Basic

/-! # Names of characters of ancient scripts -/

namespace BlockLang.CharName

/-- The names of ancient and of Indic scripts of the second plane. -/
def ancient : List Run := [
  ⟨0x10000, [
    "⁰LINEAR B SYLLABLE B008 A³B038 E³B028 I³B061 O³B010 U³B001 DA³B045 DE³B007 DI³B014 DO",
    "³B051 DU³B057 JA³B046 JE"]⟩,
  ⟨0x1000d, [
    "⁰LINEAR B SYLLABLE B036 JO³B065 JU³B077 KA³B044 KE³B067 KI³B070 KO³B081 KU³B080 MA",
    "³B013 ME³B073 MI³B015 MO³B023 MU³B006 NA³B024 NE³B030 NI³B052 NO³B055 NU³B003 PA³B072 PE",
    "³B039 PI³B011 PO³B050 PU³B016 QA³B078 QE³B021 QI³B032 QO"]⟩,
  ⟨0x10028, [
    "⁰LINEAR B SYLLABLE B060 RA³B027 RE³B053 RI³B002 RO³B026 RU³B031 SA³B009 SE³B041 SI",
    "³B012 SO³B058 SU³B059 TA³B004 TE³B037 TI³B005 TO³B069 TU³B054 WA³B075 WE³B040 WI³B042 WO"]⟩,
  ⟨0x1003c, ["⁰LINEAR B SYLLABLE B017 ZA³B074 ZE"]⟩,
  ⟨0x1003f, [
    "⁰LINEAR B SYLLABLE B020 ZO³B025 A2³B043 A3³B085 AU³B071 DWE³B090 DWO³B048 NWA³B029 PU2",
    "³B062 PTE³B076 RA2³B033 RA3³B068 RO2³B066 TA2³B087 TWE³B091 TWO"]⟩,
  ⟨0x10050, [
    "⁰LINEAR B SYMBOL B018³B019³B022³B034³B047³B049³B056³B063³B064³B079³B082³B083³B086³B089"]⟩,
  ⟨0x10080, [
    "⁰LINEAR B IDEOGRAM B100 MAN³B102 WOMAN³B104 DEER³B105 EQUID³B105F MARE³B105M STALLION",
    "³B106F EWE³B106M RAM³B107F SHE-GOAT³B107M HE-GOAT³B108F SOW³B108M BOAR³B109F COW",
    "³B109M BULL³B120 WHEAT³B121 BARLEY³B122 OLIVE³B123 SPICE³B125 CYPERUS²MONOGRAM B127 KAPO",
    "³B128 KANAKO²IDEOGRAM B130 OIL³B131 WINE³B132²MONOGRAM B133 AREPA³B135 MERI",
    "²IDEOGRAM B140 BRONZE³B141 GOLD³B142³B145 WOOL³B146³B150³B151 HORN³B152³B153³B154",
    "²MONOGRAM B156 TURO2²IDEOGRAM B157³B158³B159 CLOTH³B160³B161³B162 GARMENT³B163 ARMOUR",
    "³B164³B165³B166³B167³B168³B169³B170³B171³B172³B173 MONTH³B174³B176 TREE³B177³B178³B179",
    "³B180³B181³B182³B183³B184³B185³B189³B190³B191 HELMET³B220 FOOTSTOOL³B225 BATHTUB",
    "³B230 SPEAR³B231 ARROW³B232³B233 SWORD³B234³B236³B240 WHEELED CHARIOT³B241 CHARIOT",
    "³B242 CHARIOT FRAME³B243 WHEEL³B245³B246²MONOGRAM B247 DIPTE²IDEOGRAM B248³B249³B251",
    "³B252³B253³B254 DART³B255³B256³B257³B258³B259³VESSEL B155⁴B200⁴B201⁴B202⁴B203⁴B204⁴B205",
    "⁴B206⁴B207⁴B208⁴B209⁴B210⁴B211⁴B212⁴B213⁴B214⁴B215⁴B216⁴B217⁴B218⁴B219⁴B221⁴B222⁴B226",
    "⁴B227⁴B228⁴B229⁴B250⁴B305"]⟩,
  ⟨0x10100, ["⁰AEGEAN WORD SEPARATOR LINE³DOT¹CHECK MARK"]⟩,
  ⟨0x10107, [
    "⁰AEGEAN NUMBER ONE²TWO²THREE²FOUR²FIVE²SIX²SEVEN²EIGHT²NINE²TEN²TWENTY²THIRTY²FORTY",
    "²FIFTY²SIXTY²SEVENTY²EIGHTY²NINETY²ONE HUNDRED²TWO HUNDRED²THREE HUNDRED²FOUR HUNDRED",
    "²FIVE HUNDRED²SIX HUNDRED²SEVEN HUNDRED²EIGHT HUNDRED²NINE HUNDRED²ONE THOUSAND",
    "²TWO THOUSAND²THREE THOUSAND²FOUR THOUSAND²FIVE THOUSAND²SIX THOUSAND²SEVEN THOUSAND",
    "²EIGHT THOUSAND²NINE THOUSAND²TEN THOUSAND²TWENTY THOUSAND²THIRTY THOUSAND",
    "²FORTY THOUSAND²FIFTY THOUSAND²SIXTY THOUSAND²SEVENTY THOUSAND²EIGHTY THOUSAND",
    "²NINETY THOUSAND"]⟩,
  ⟨0x10137, [
    "⁰AEGEAN WEIGHT BASE UNIT²FIRST SUBUNIT²SECOND SUBUNIT²THIRD SUBUNIT²FOURTH SUBUNIT",
    "¹DRY MEASURE FIRST SUBUNIT¹LIQUID MEASURE FIRST SUBUNIT¹MEASURE SECOND SUBUNIT",
    "²THIRD SUBUNIT⁰GREEK ACROPHONIC ATTIC ONE QUARTER⁴HALF⁴DRACHMA³FIVE³FIFTY³FIVE HUNDRED",
    "⁴THOUSAND³FIFTY THOUSAND³FIVE TALENTS³TEN TALENTS³FIFTY TALENTS³ONE HUNDRED TALENTS",
    "³FIVE HUNDRED TALENTS³ONE THOUSAND TALENTS³FIVE THOUSAND TALENTS⁴STATERS³TEN STATERS",
    "³FIFTY STATERS³ONE HUNDRED STATERS³FIVE HUNDRED STATERS³ONE THOUSAND STATERS",
    "³TEN THOUSAND STATERS³FIFTY THOUSAND STATERS³TEN MNAS²HERAEUM ONE PLETHRON²THESPIAN ONE",
    "²HERMIONIAN ONE²EPIDAUREAN TWO²THESPIAN TWO²CYRENAIC TWO DRACHMAS",
    "²EPIDAUREAN TWO DRACHMAS²TROEZENIAN FIVE³TEN⁴ALTERNATE FORM²HERMIONIAN TEN²MESSENIAN TEN",
    "²THESPIAN TEN³THIRTY²TROEZENIAN FIFTY⁴ALTERNATE FORM²HERMIONIAN FIFTY²THESPIAN FIFTY",
    "³ONE HUNDRED³THREE HUNDRED²EPIDAUREAN FIVE HUNDRED²TROEZENIAN FIVE HUNDRED",
    "²THESPIAN FIVE HUNDRED²CARYSTIAN FIVE HUNDRED²NAXIAN FIVE HUNDRED²THESPIAN ONE THOUSAND",
    "³FIVE THOUSAND²DELPHIC FIVE MNAS²STRATIAN FIFTY MNAS¹ONE HALF SIGN⁴ALTERNATE FORM",
    "¹TWO THIRDS SIGN¹THREE QUARTERS SIGN¹YEAR SIGN¹TALENT SIGN¹DRACHMA SIGN¹OBOL SIGN",
    "¹TWO OBOLS SIGN¹THREE OBOLS SIGN¹FOUR OBOLS SIGN¹FIVE OBOLS SIGN¹METRETES SIGN",
    "¹KYATHOS BASE SIGN¹LITRA SIGN¹OUNKIA SIGN¹XESTES SIGN¹ARTABE SIGN¹AROURA SIGN",
    "¹GRAMMA SIGN¹TRYBLION BASE SIGN¹ZERO SIGN¹ONE QUARTER SIGN¹SINUSOID SIGN¹INDICTION SIGN",
    "⁰NOMISMA SIGN"]⟩,
  ⟨0x10190, [
    "⁰ROMAN SEXTANS SIGN¹UNCIA SIGN¹SEMUNCIA SIGN¹SEXTULA SIGN¹DIMIDIA SEXTULA SIGN",
    "¹SILIQUA SIGN¹DENARIUS SIGN¹QUINARIUS SIGN¹SESTERTIUS SIGN¹DUPONDIUS SIGN¹AS SIGN",
    "¹CENTURIAL SIGN⁰ASCIA SYMBOL"]⟩,
  ⟨0x101a0, ["⁰GREEK SYMBOL TAU RHO"]⟩,
  ⟨0x101d0, [
    "⁰PHAISTOS DISC SIGN PEDESTRIAN³PLUMED HEAD³TATTOOED HEAD³CAPTIVE³CHILD³WOMAN³HELMET",
    "³GAUNTLET³TIARA³ARROW³BOW³SHIELD³CLUB³MANACLES³MATTOCK³SAW³LID³BOOMERANG³CARPENTRY PLANE",
    "³DOLIUM³COMB³SLING³COLUMN³BEEHIVE³SHIP³HORN³HIDE³BULLS LEG³CAT³RAM³EAGLE³DOVE³TUNNY³BEE",
    "³PLANE TREE³VINE³PAPYRUS³ROSETTE³LILY³OX BACK³FLUTE³GRATER³STRAINER³SMALL AXE³WAVY BAND",
    "³COMBINING OBLIQUE STROKE"]⟩,
  ⟨0x10280, [
    "⁰LYCIAN LETTER A²E²B²BH²G²D²I²W²Z²TH²J²K²Q²L²M²N²MM²NN²U²P²KK²R²S²T²TT²AN²EN²H²X"]⟩,
  ⟨0x102a0, [
    "⁰CARIAN LETTER A²P2²D²L²UUU²R²LD²A2²Q²B²M²O²D2²T²SH²SH2²S²C-18²U²NN²X²N²TT2²P²SS²I²E",
    "²UUUU²K²K2²ND²UU²G²G2²ST²ST2²NG²II²C-39²TT²UUU2²RR²MB²MB2²MB3²MB4²LD2²E2²UUU3"]⟩,
  ⟨0x102e0, [
    "⁰COPTIC EPACT THOUSANDS MARK²DIGIT ONE³TWO³THREE³FOUR³FIVE³SIX³SEVEN³EIGHT³NINE",
    "²NUMBER TEN³TWENTY³THIRTY³FORTY³FIFTY³SIXTY³SEVENTY³EIGHTY³NINETY³ONE HUNDRED",
    "³TWO HUNDRED³THREE HUNDRED³FOUR HUNDRED³FIVE HUNDRED³SIX HUNDRED³SEVEN HUNDRED",
    "³EIGHT HUNDRED³NINE HUNDRED"]⟩,
  ⟨0x10300, [
    "⁰OLD ITALIC LETTER A³BE³KE³DE³E³VE³ZE³HE³THE³I³KA³EL³EM³EN³ESH³O³PE³SHE³KU³ER³ES³TE³U",
    "³EKS³PHE³KHE³EF³ERS³CHE³II³UU³ESS²NUMERAL ONE³FIVE³TEN³FIFTY"]⟩,
  ⟨0x1032d, [
    "⁰OLD ITALIC LETTER YE³NORTHERN TSE³SOUTHERN TSE⁰GOTHIC LETTER AHSA²BAIRKAN²GIBA²DAGS",
    "²AIHVUS²QAIRTHRA²IUJA²HAGL²THIUTH²EIS²KUSMA²LAGUS²MANNA²NAUTHS²JER²URUS²PAIRTHRA²NINETY",
    "²RAIDA²SAUIL²TEIWS²WINJA²FAIHU²IGGWS²HWAIR²OTHAL²NINE HUNDRED"]⟩,
  ⟨0x10350, [
    "⁰OLD PERMIC LETTER AN³BUR³GAI³DOI³E³ZHOI³DZHOI³ZATA³DZITA³I³KOKE³LEI³MENOE³NENOE³VOOI",
    "³PEEI³REI³SII³TAI³U³CHERY³SHOOI³SHCHOOI³YRY³YERU³O³OO³EF³HA³TSIU³VER³YER³YERI³YAT³IE³YU",
    "³YA³IA⁰COMBINING OLD PERMIC LETTER AN⁴DOI⁴ZATA⁴NENOE⁴SII"]⟩,
  ⟨0x10380, [
    "⁰UGARITIC LETTER ALPA²BETA²GAMLA²KHA²DELTA²HO²WO²ZETA²HOTA²TET²YOD²KAF²SHIN²LAMDA²MEM",
    "²DHAL²NUN²ZU²SAMKA²AIN²PU²SADE²QOPA²RASHA²THANNA²GHAIN²TO²I²U²SSU"]⟩,
  ⟨0x1039f, [
    "⁰UGARITIC WORD DIVIDER⁰OLD PERSIAN SIGN A³I³U³KA³KU³GA³GU³XA³CA³JA³JI³TA³TU³DA³DI³DU³THA",
    "³PA³BA³FA³NA³NU³MA³MI³MU³YA³VA³VI³RA³RU³LA³SA³ZA³SHA³SSA³HA"]⟩,
  ⟨0x103c8, [
    "⁰OLD PERSIAN SIGN AURAMAZDAA³AURAMAZDAA-2³AURAMAZDAAHA³XSHAAYATHIYA³DAHYAAUSH",
    "³DAHYAAUSH-2³BAGA³BUUMISH²WORD DIVIDER²NUMBER ONE³TWO³TEN³TWENTY³HUNDRED"]⟩,
  ⟨0x10400, [
    "⁰DESERET CAPITAL LETTER LONG I⁴E⁴A⁴AH⁴O⁴OO³SHORT I⁴E⁴A⁴AH⁴O⁴OO³AY³OW³WU³YEE³H³PEE³BEE",
    "³TEE³DEE³CHEE³JEE³KAY³GAY³EF³VEE³ETH³THEE³ES³ZEE³ESH³ZHEE³ER³EL³EM³EN³ENG³OI³EW",
    "¹SMALL LETTER LONG I⁴E⁴A⁴AH⁴O⁴OO³SHORT I⁴E⁴A⁴AH⁴O⁴OO³AY³OW³WU³YEE³H³PEE³BEE³TEE³DEE³CHEE",
    "³JEE³KAY³GAY³EF³VEE³ETH³THEE³ES³ZEE³ESH³ZHEE³ER³EL³EM³EN³ENG³OI³EW⁰SHAVIAN LETTER PEEP",
    "²TOT²KICK²FEE²THIGH²SO²SURE²CHURCH²YEA²HUNG²BIB²DEAD²GAG²VOW²THEY²ZOO²MEASURE²JUDGE²WOE",
    "²HA-HA²LOLL²MIME²IF²EGG²ASH²ADO²ON²WOOL²OUT²AH²ROAR²NUN²EAT²AGE²ICE²UP²OAK²OOZE²OIL²AWE",
    "²ARE²OR²AIR²ERR²ARRAY²EAR²IAN²YEW⁰OSMANYA LETTER ALEF²BA²TA²JA²XA²KHA²DEEL²RA²SA²SHIIN",
    "²DHA²CAYN²GA²FA²QAAF²KAAF²LAAN²MIIN²NUUN²WAW²HA²YA²A²E²I²O²U²AA²EE²OO"]⟩,
  ⟨0x104a0, ["⁰OSMANYA DIGIT ZERO²ONE²TWO²THREE²FOUR²FIVE²SIX²SEVEN²EIGHT²NINE"]⟩,
  ⟨0x104b0, [
    "⁰OSAGE CAPITAL LETTER A³AI³AIN³AH³BRA³CHA³EHCHA³E³EIN³HA³HYA³I³KA³EHKA³KYA³LA³MA³NA³O",
    "³OIN³PA³EHPA³SA³SHA³TA³EHTA³TSA³EHTSA³TSHA³DHA³U³WA³KHA³GHA³ZA³ZHA"]⟩,
  ⟨0x104d8, [
    "⁰OSAGE SMALL LETTER A³AI³AIN³AH³BRA³CHA³EHCHA³E³EIN³HA³HYA³I³KA³EHKA³KYA³LA³MA³NA³O³OIN",
    "³PA³EHPA³SA³SHA³TA³EHTA³TSA³EHTSA³TSHA³DHA³U³WA³KHA³GHA³ZA³ZHA"]⟩,
  ⟨0x10500, [
    "⁰ELBASAN LETTER A²BE²CE²CHE²DE²NDE²DHE²EI²E²FE²GE²GJE²HE²I²JE²KE²LE²LLE²ME²NE²NA²NJE²O",
    "²PE²QE²RE²RRE²SE²SHE²TE²THE²U²VE²XE²Y²ZE²ZHE²GHE²GHAMMA²KHE"]⟩,
  ⟨0x10530, [
    "⁰CAUCASIAN ALBANIAN LETTER ALT³BET³GIM³DAT³EB³ZARL³EYN³ZHIL³TAS³CHA³YOWD³ZHA³IRB³SHA³LAN",
    "³INYA³XEYN³DYAN³CAR³JHOX³KAR³LYIT³HEYT³QAY³AOR³CHOY³CHI³CYAY³MAQ³QAR³NOWC³DZYAY³SHAK",
    "³JAYN³ON³TYAY³FAM³DZAY³CHAT³PEN³GHEYS³RAT³SEYK³VEYZ³TIWR³SHOY³IWN³CYAW³CAYN³YAYD³PIWR",
    "³KIW"]⟩,
  ⟨0x1056f, [
    "⁰CAUCASIAN ALBANIAN CITATION MARK⁰VITHKUQI CAPITAL LETTER A³BBE³BE³CE³CHE³DE³DHE³EI³E³FE",
    "³GA"]⟩,
  ⟨0x1057c, ["⁰VITHKUQI CAPITAL LETTER HA³HHA³I³IJE³JE³KA³LA³LLA³ME³NE³NJE³O³PE³QA³RE"]⟩,
  ⟨0x1058c, ["⁰VITHKUQI CAPITAL LETTER SE³SHE³TE³THE³U³VE³XE"]⟩,
  ⟨0x10594, ["⁰VITHKUQI CAPITAL LETTER Y³ZE"]⟩,
  ⟨0x10597, ["⁰VITHKUQI SMALL LETTER A³BBE³BE³CE³CHE³DE³DHE³EI³E³FE³GA"]⟩,
  ⟨0x105a3, ["⁰VITHKUQI SMALL LETTER HA³HHA³I³IJE³JE³KA³LA³LLA³ME³NE³NJE³O³PE³QA³RE"]⟩,
  ⟨0x105b3, ["⁰VITHKUQI SMALL LETTER SE³SHE³TE³THE³U³VE³XE"]⟩,
  ⟨0x105bb, ["⁰VITHKUQI SMALL LETTER Y³ZE"]⟩,
  ⟨0x10600, [
    "⁰LINEAR A SIGN AB001³AB002³AB003³AB004³AB005³AB006³AB007³AB008³AB009³AB010³AB011³AB013",
    "³AB016³AB017³AB020³AB021³AB021F³AB021M³AB022³AB022F³AB022M³AB023³AB023M³AB024³AB026",
    "³AB027³AB028³A028B³AB029³AB030³AB031³AB034³AB037³AB038³AB039³AB040³AB041³AB044³AB045",
    "³AB046³AB047³AB048³AB049³AB050³AB051³AB053³AB054³AB055³AB056³AB057³AB058³AB059³AB060",
    "³AB061³AB065³AB066³AB067³AB069³AB070³AB073³AB074³AB076³AB077³AB078³AB079³AB080³AB081",
    "³AB082³AB085³AB086³AB087³A100-102³AB118³AB120³A120B³AB122³AB123³AB131A³AB131B³A131C",
    "³AB164³AB171³AB180³AB188³AB191³A301³A302³A303³A304³A305³A306³A307³A308³A309A³A309B³A309C",
    "³A310³A311³A312³A313A³A313B³A313C³A314³A315³A316³A317³A318³A319³A320³A321³A322³A323³A324",
    "³A325³A326³A327³A328³A329³A330³A331³A332³A333³A334³A335³A336³A337³A338³A339³A340³A341",
    "³A342³A343³A344³A345³A346³A347³A348³A349³A350³A351³A352³A353³A354³A355³A356³A357³A358",
    "³A359³A360³A361³A362³A363³A364³A365³A366³A367³A368³A369³A370³A371³A400-VAS³A401-VAS",
    "³A402-VAS³A403-VAS³A404-VAS³A405-VAS³A406-VAS³A407-VAS³A408-VAS³A409-VAS³A410-VAS",
    "³A411-VAS³A412-VAS³A413-VAS³A414-VAS³A415-VAS³A416-VAS³A417-VAS³A418-VAS³A501³A502³A503",
    "³A504³A505³A506³A508³A509³A510³A511³A512³A513³A515³A516³A520³A521³A523³A524³A525³A526",
    "³A527³A528³A529³A530³A531³A532³A534³A535³A536³A537³A538³A539³A540³A541³A542³A545³A547",
    "³A548³A549³A550³A551³A552³A553³A554³A555³A556³A557³A559³A563³A564³A565³A566³A568³A569",
    "³A570³A571³A572³A573³A574³A575³A576³A577³A578³A579³A580³A581³A582³A583³A584³A585³A586",
    "³A587³A588³A589³A591³A592³A594³A595³A596³A598³A600³A601³A602³A603³A604³A606³A608³A609",
    "³A610³A611³A612³A613³A614³A615³A616³A617³A618³A619³A620³A621³A622³A623³A624³A626³A627",
    "³A628³A629³A634³A637³A638³A640³A642³A643³A644³A645³A646³A648³A649³A651³A652³A653³A654",
    "³A655³A656³A657³A658³A659³A660³A661³A662³A663³A664"]⟩,
  ⟨0x10740, [
    "⁰LINEAR A SIGN A701 A³A702 B³A703 D³A704 E³A705 F³A706 H³A707 J³A708 K³A709 L³A709-2 L2",
    "³A709-3 L3³A709-4 L4³A709-6 L6³A710 W³A711 X³A712 Y³A713 OMEGA³A714 ABB³A715 BB³A717 DD",
    "³A726 EYYY³A732 JE"]⟩,
  ⟨0x10760, ["⁰LINEAR A SIGN A800³A801³A802³A803³A804³A805³A806³A807"]⟩,
  ⟨0x10780, [
    "⁰MODIFIER LETTER SMALL CAPITAL AA²SUPERSCRIPT TRIANGULAR COLON³HALF TRIANGULAR COLON",
    "²SMALL AE³CAPITAL B³B WITH HOOK"]⟩,
  ⟨0x10787, [
    "⁰MODIFIER LETTER SMALL DZ DIGRAPH⁵WITH RETROFLEX HOOK⁶CURL³DEZH DIGRAPH³D WITH TAIL⁵HOOK",
    "⁶AND TAIL³REVERSED E³CLOSED REVERSED OPEN E³FENG DIGRAPH³RAMS HORN³CAPITAL G³G WITH HOOK",
    "³CAPITAL G WITH HOOK³H WITH STROKE³CAPITAL H³HENG WITH HOOK",
    "³DOTLESS J WITH STROKE AND HOOK³LS DIGRAPH³LZ DIGRAPH³L WITH BELT³CAPITAL L WITH BELT",
    "³L WITH RETROFLEX HOOK AND BELT³LEZH⁴WITH RETROFLEX HOOK³TURNED Y⁵WITH BELT",
    "³O WITH STROKE³CAPITAL OE³CLOSED OMEGA³Q³TURNED R WITH LONG LEG⁸AND RETROFLEX HOOK",
    "³R WITH TAIL⁵FISHHOOK³CAPITAL R³TC DIGRAPH WITH CURL³TS DIGRAPH⁵WITH RETROFLEX HOOK",
    "³TESH DIGRAPH³T WITH RETROFLEX HOOK³V WITH RIGHT HOOK"]⟩,
  ⟨0x107b2, [
    "⁰MODIFIER LETTER SMALL CAPITAL Y²GLOTTAL STOP WITH STROKE",
    "²REVERSED GLOTTAL STOP WITH STROKE²BILABIAL CLICK²DENTAL CLICK²LATERAL CLICK",
    "²ALVEOLAR CLICK²RETROFLEX CLICK WITH RETROFLEX HOOK²SMALL S WITH CURL"]⟩,
  ⟨0x10800, ["⁰CYPRIOT SYLLABLE A²E²I²O²U²JA"]⟩,
  ⟨0x10808, ["⁰CYPRIOT SYLLABLE JO"]⟩,
  ⟨0x1080a, [
    "⁰CYPRIOT SYLLABLE KA²KE²KI²KO²KU²LA²LE²LI²LO²LU²MA²ME²MI²MO²MU²NA²NE²NI²NO²NU²PA²PE²PI",
    "²PO²PU²RA²RE²RI²RO²RU²SA²SE²SI²SO²SU²TA²TE²TI²TO²TU²WA²WE²WI²WO"]⟩,
  ⟨0x10837, ["⁰CYPRIOT SYLLABLE XA²XE"]⟩,
  ⟨0x1083c, ["⁰CYPRIOT SYLLABLE ZA"]⟩,
  ⟨0x1083f, [
    "⁰CYPRIOT SYLLABLE ZO⁰IMPERIAL ARAMAIC LETTER ALEPH³BETH³GIMEL³DALETH³HE³WAW³ZAYIN³HETH",
    "³TETH³YODH³KAPH³LAMEDH³MEM³NUN³SAMEKH³AYIN³PE³SADHE³QOPH³RESH³SHIN³TAW"]⟩,
  ⟨0x10857, [
    "⁰IMPERIAL ARAMAIC SECTION SIGN²NUMBER ONE³TWO³THREE³TEN³TWENTY³ONE HUNDRED⁴THOUSAND",
    "³TEN THOUSAND⁰PALMYRENE LETTER ALEPH²BETH²GIMEL²DALETH²HE²WAW²ZAYIN²HETH²TETH²YODH²KAPH",
    "²LAMEDH²MEM²FINAL NUN²NUN²SAMEKH²AYIN²PE²SADHE²QOPH²RESH²SHIN²TAW¹LEFT-POINTING FLEURON",
    "¹RIGHT-POINTING FLEURON¹NUMBER ONE²TWO²THREE²FOUR²FIVE²TEN²TWENTY",
    "⁰NABATAEAN LETTER FINAL ALEPH²ALEPH²FINAL BETH²BETH²GIMEL²DALETH²FINAL HE²HE²WAW²ZAYIN",
    "²HETH²TETH²FINAL YODH²YODH²FINAL KAPH²KAPH²FINAL LAMEDH²LAMEDH²FINAL MEM²MEM²FINAL NUN",
    "²NUN²SAMEKH²AYIN²PE²SADHE²QOPH²RESH²FINAL SHIN²SHIN²TAW"]⟩,
  ⟨0x108a7, [
    "⁰NABATAEAN NUMBER ONE²TWO²THREE²FOUR¹CRUCIFORM NUMBER FOUR¹NUMBER FIVE²TEN²TWENTY",
    "²ONE HUNDRED"]⟩,
  ⟨0x108e0, [
    "⁰HATRAN LETTER ALEPH²BETH²GIMEL²DALETH-RESH²HE²WAW²ZAYN²HETH²TETH²YODH²KAPH²LAMEDH²MEM",
    "²NUN²SAMEKH²AYN²PE²SADHE²QOPH"]⟩,
  ⟨0x108f4, ["⁰HATRAN LETTER SHIN²TAW"]⟩,
  ⟨0x108fb, [
    "⁰HATRAN NUMBER ONE²FIVE²TEN²TWENTY²ONE HUNDRED⁰PHOENICIAN LETTER ALF²BET²GAML²DELT²HE",
    "²WAU²ZAI²HET²TET²YOD²KAF²LAMD²MEM²NUN²SEMK²AIN²PE²SADE²QOF²ROSH²SHIN²TAU¹NUMBER ONE²TEN",
    "²TWENTY²ONE HUNDRED²TWO²THREE"]⟩,
  ⟨0x1091f, [
    "⁰PHOENICIAN WORD SEPARATOR⁰LYDIAN LETTER A²B²G²D²E²V²I²Y²K²L²M²N²O²R²SS²T²U²F²Q²S²TT²AN",
    "²EN²LY²NN²C"]⟩,
  ⟨0x1093f, ["⁰LYDIAN TRIANGULAR MARK"]⟩,
  ⟨0x10980, [
    "⁰MEROITIC HIEROGLYPHIC LETTER A³E³I³O³YA³WA³BA³BA-2³PA³MA³NA³NA-2³NE³NE-2³RA³RA-2³LA³KHA",
    "³HHA³SA³SA-2³SE³KA³QA³TA³TA-2³TE³TE-2³TO³DA²SYMBOL VIDJ³VIDJ-2¹CURSIVE LETTER A³E³I³O³YA",
    "³WA³BA³PA³MA³NA³NE³RA³LA³KHA³HHA³SA³ARCHAIC SA³SE³KA³QA³TA³TE³TO³DA"]⟩,
  ⟨0x109bc, [
    "⁰MEROITIC CURSIVE FRACTION ELEVEN TWELFTHS³ONE HALF²LOGOGRAM RMT³IMN²NUMBER ONE³TWO",
    "³THREE³FOUR³FIVE³SIX³SEVEN³EIGHT³NINE³TEN³TWENTY³THIRTY³FORTY³FIFTY³SIXTY³SEVENTY"]⟩,
  ⟨0x109d2, [
    "⁰MEROITIC CURSIVE NUMBER ONE HUNDRED³TWO HUNDRED³THREE HUNDRED³FOUR HUNDRED³FIVE HUNDRED",
    "³SIX HUNDRED³SEVEN HUNDRED³EIGHT HUNDRED³NINE HUNDRED³ONE THOUSAND³TWO THOUSAND",
    "³THREE THOUSAND³FOUR THOUSAND³FIVE THOUSAND³SIX THOUSAND³SEVEN THOUSAND³EIGHT THOUSAND",
    "³NINE THOUSAND³TEN THOUSAND³TWENTY THOUSAND³THIRTY THOUSAND³FORTY THOUSAND",
    "³FIFTY THOUSAND³SIXTY THOUSAND³SEVENTY THOUSAND³EIGHTY THOUSAND³NINETY THOUSAND",
    "³ONE HUNDRED THOUSAND³TWO HUNDRED THOUSAND³THREE HUNDRED THOUSAND³FOUR HUNDRED THOUSAND",
    "³FIVE HUNDRED THOUSAND³SIX HUNDRED THOUSAND³SEVEN HUNDRED THOUSAND",
    "³EIGHT HUNDRED THOUSAND³NINE HUNDRED THOUSAND²FRACTION ONE TWELFTH³TWO TWELFTHS",
    "³THREE TWELFTHS³FOUR TWELFTHS³FIVE TWELFTHS³SIX TWELFTHS³SEVEN TWELFTHS³EIGHT TWELFTHS",
    "³NINE TWELFTHS³TEN TWELFTHS⁰KHAROSHTHI LETTER A¹VOWEL SIGN I³U³VOCALIC R"]⟩,
  ⟨0x10a05, ["⁰KHAROSHTHI VOWEL SIGN E³O"]⟩,
  ⟨0x10a0c, [
    "⁰KHAROSHTHI VOWEL LENGTH MARK¹SIGN DOUBLE RING BELOW²ANUSVARA²VISARGA¹LETTER KA²KHA²GA",
    "²GHA"]⟩,
  ⟨0x10a15, ["⁰KHAROSHTHI LETTER CA²CHA²JA"]⟩,
  ⟨0x10a19, [
    "⁰KHAROSHTHI LETTER NYA²TTA²TTHA²DDA²DDHA²NNA²TA²THA²DA²DHA²NA²PA²PHA²BA²BHA²MA²YA²RA²LA",
    "²VA²SHA²SSA²SA²ZA²HA²KKA²TTTHA²TTTA²VHA"]⟩,
  ⟨0x10a38, ["⁰KHAROSHTHI SIGN BAR ABOVE²CAUDA²DOT BELOW"]⟩,
  ⟨0x10a3f, [
    "⁰KHAROSHTHI VIRAMA¹DIGIT ONE²TWO²THREE²FOUR¹NUMBER TEN²TWENTY²ONE HUNDRED³THOUSAND",
    "¹FRACTION ONE HALF"]⟩,
  ⟨0x10a50, [
    "⁰KHAROSHTHI PUNCTUATION DOT²SMALL CIRCLE²CIRCLE²CRESCENT BAR²MANGALAM²LOTUS²DANDA",
    "²DOUBLE DANDA²LINES"]⟩,
  ⟨0x10a60, [
    "⁰OLD SOUTH ARABIAN LETTER HE⁴LAMEDH⁴HETH⁴MEM⁴QOPH⁴WAW⁴SHIN⁴RESH⁴BETH⁴TAW⁴SAT⁴KAPH⁴NUN",
    "⁴KHETH⁴SADHE⁴SAMEKH⁴FE⁴ALEF⁴AYN⁴DHADHE⁴GIMEL⁴DALETH⁴GHAYN⁴TETH⁴ZAYN⁴DHALETH⁴YODH⁴THAW",
    "⁴THETH³NUMBER ONE⁴FIFTY³NUMERIC INDICATOR¹NORTH ARABIAN LETTER HEH⁴LAM⁴HAH⁴MEEM⁴QAF⁴WAW",
    "⁴ES-2⁴REH⁴BEH⁴TEH⁴ES-1⁴KAF⁴NOON⁴KHAH⁴SAD⁴ES-3⁴FEH⁴ALEF⁴AIN⁴DAD⁴GEEM⁴DAL⁴GHAIN⁴TAH⁴ZAIN",
    "⁴THAL⁴YEH⁴THEH⁴ZAH³NUMBER ONE⁴TEN⁴TWENTY"]⟩,
  ⟨0x10ac0, [
    "⁰MANICHAEAN LETTER ALEPH²BETH²BHETH²GIMEL²GHIMEL²DALETH²HE²WAW¹SIGN UD¹LETTER ZAYIN",
    "²ZHAYIN²JAYIN²JHAYIN²HETH²TETH²YODH²KAPH²XAPH²KHAPH²LAMEDH²DHAMEDH²THAMEDH²MEM²NUN",
    "²SAMEKH²AYIN²AAYIN²PE²FE²SADHE²QOPH²XOPH²QHOPH²RESH²SHIN²SSHIN²TAW",
    "¹ABBREVIATION MARK ABOVE³BELOW"]⟩,
  ⟨0x10aeb, [
    "⁰MANICHAEAN NUMBER ONE²FIVE²TEN²TWENTY²ONE HUNDRED¹PUNCTUATION STAR²FLEURON",
    "²DOUBLE DOT WITHIN DOT²DOT WITHIN DOT²DOT²TWO DOTS²LINE FILLER"]⟩,
  ⟨0x10b00, [
    "⁰AVESTAN LETTER A²AA²AO²AAO²AN²AAN²AE²AEE²E²EE²O²OO²I²II²U²UU²KE²XE²XYE²XVE²GE²GGE²GHE",
    "²CE²JE²TE²THE²DE²DHE²TTE²PE²FE²BE²BHE²NGE²NGYE²NGVE²NE²NYE²NNE²ME²HME²YYE²YE²VE²RE²LE²SE",
    "²ZE²SHE²ZHE²SHYE²SSHE²HE"]⟩,
  ⟨0x10b39, [
    "⁰AVESTAN ABBREVIATION MARK⁰TINY TWO DOTS OVER ONE DOT PUNCTUATION",
    "⁰SMALL TWO DOTS OVER ONE DOT PUNCTUATION⁰LARGE TWO DOTS OVER ONE DOT PUNCTUATION",
    "¹ONE DOT OVER TWO DOTS PUNCTUATION¹TWO RINGS OVER ONE RING PUNCTUATION",
    "¹ONE RING OVER TWO RINGS PUNCTUATION⁰INSCRIPTIONAL PARTHIAN LETTER ALEPH³BETH³GIMEL",
    "³DALETH³HE³WAW³ZAYIN³HETH³TETH³YODH³KAPH³LAMEDH³MEM³NUN³SAMEKH³AYIN³PE³SADHE³QOPH³RESH",
    "³SHIN³TAW"]⟩,
  ⟨0x10b58, [
    "⁰INSCRIPTIONAL PARTHIAN NUMBER ONE³TWO³THREE³FOUR³TEN³TWENTY³ONE HUNDRED⁴THOUSAND",
    "¹PAHLAVI LETTER ALEPH³BETH³GIMEL³DALETH³HE³WAW-AYIN-RESH³ZAYIN³HETH³TETH³YODH³KAPH",
    "³LAMEDH³MEM-QOPH³NUN³SAMEKH³PE³SADHE³SHIN³TAW"]⟩,
  ⟨0x10b78, [
    "⁰INSCRIPTIONAL PAHLAVI NUMBER ONE³TWO³THREE³FOUR³TEN³TWENTY³ONE HUNDRED⁴THOUSAND",
    "⁰PSALTER PAHLAVI LETTER ALEPH³BETH³GIMEL³DALETH³HE³WAW-AYIN-RESH³ZAYIN³HETH³YODH³KAPH",
    "³LAMEDH³MEM-QOPH³NUN³SAMEKH³PE³SADHE³SHIN³TAW"]⟩,
  ⟨0x10b99, ["⁰PSALTER PAHLAVI SECTION MARK²TURNED SECTION MARK²FOUR DOTS WITH CROSS⁵DOT"]⟩,
  ⟨0x10ba9, ["⁰PSALTER PAHLAVI NUMBER ONE³TWO³THREE³FOUR³TEN³TWENTY³ONE HUNDRED"]⟩,
  ⟨0x10c00, [
    "⁰OLD TURKIC LETTER ORKHON A³YENISEI A⁴AE³ORKHON I³YENISEI I⁴E³ORKHON O⁴OE³YENISEI OE",
    "³ORKHON AB³YENISEI AB³ORKHON AEB³YENISEI AEB³ORKHON AG³YENISEI AG³ORKHON AEG³YENISEI AEG",
    "³ORKHON AD³YENISEI AD³ORKHON AED⁴EZ³YENISEI EZ³ORKHON AY³YENISEI AY³ORKHON AEY",
    "³YENISEI AEY³ORKHON AEK³YENISEI AEK³ORKHON OEK³YENISEI OEK³ORKHON AL³YENISEI AL",
    "³ORKHON AEL⁴ELT⁴EM⁴AN⁴AEN³YENISEI AEN³ORKHON ENT³YENISEI ENT³ORKHON ENC³YENISEI ENC",
    "³ORKHON ENY³YENISEI ENY⁴ANG³ORKHON ENG³YENISEI AENG³ORKHON EP⁴OP⁴IC⁴EC³YENISEI EC",
    "³ORKHON AQ³YENISEI AQ³ORKHON IQ³YENISEI IQ³ORKHON OQ³YENISEI OQ³ORKHON AR³YENISEI AR",
    "³ORKHON AER⁴AS⁴AES⁴ASH³YENISEI ASH³ORKHON ESH³YENISEI ESH³ORKHON AT³YENISEI AT",
    "³ORKHON AET³YENISEI AET³ORKHON OT⁴BASH"]⟩,
  ⟨0x10c80, [
    "⁰OLD HUNGARIAN CAPITAL LETTER A⁴AA⁴EB⁴AMB⁴EC⁴ENC⁴ECS⁴ED⁴AND⁴E⁴CLOSE E⁴EE⁴EF⁴EG⁴EGY⁴EH⁴I",
    "⁴II⁴EJ⁴EK⁴AK⁴UNK⁴EL⁴ELY⁴EM⁴EN⁴ENY⁴O⁴OO⁴NIKOLSBURG OE⁴RUDIMENTA OE⁴OEE⁴EP⁴EMP⁴ER⁴SHORT ER",
    "⁴ES⁴ESZ⁴ET⁴ENT⁴ETY⁴ECH⁴U⁴UU⁴NIKOLSBURG UE⁴RUDIMENTA UE⁴EV⁴EZ⁴EZS⁴ENT-SHAPED SIGN⁴US"]⟩,
  ⟨0x10cc0, [
    "⁰OLD HUNGARIAN SMALL LETTER A⁴AA⁴EB⁴AMB⁴EC⁴ENC⁴ECS⁴ED⁴AND⁴E⁴CLOSE E⁴EE⁴EF⁴EG⁴EGY⁴EH⁴I⁴II",
    "⁴EJ⁴EK⁴AK⁴UNK⁴EL⁴ELY⁴EM⁴EN⁴ENY⁴O⁴OO⁴NIKOLSBURG OE⁴RUDIMENTA OE⁴OEE⁴EP⁴EMP⁴ER⁴SHORT ER⁴ES",
    "⁴ESZ⁴ET⁴ENT⁴ETY⁴ECH⁴U⁴UU⁴NIKOLSBURG UE⁴RUDIMENTA UE⁴EV⁴EZ⁴EZS⁴ENT-SHAPED SIGN⁴US"]⟩,
  ⟨0x10cfa, [
    "⁰OLD HUNGARIAN NUMBER ONE³FIVE³TEN³FIFTY³ONE HUNDRED⁴THOUSAND⁰HANIFI ROHINGYA LETTER A",
    "³BA³PA³TA³TTA³JA³CA³HA³KHA³FA³DA³DDA³RA³RRA³ZA³SA³SHA³KA³GA³LA³MA³NA³WA³KINNA WA³YA",
    "³KINNA YA³NGA³NYA³VA²VOWEL A³I³U³E³O²MARK SAKIN³NA KHONNA²SIGN HARBAHAY³TAHALA³TANA",
    "³TASSI"]⟩,
  ⟨0x10d30, ["⁰HANIFI ROHINGYA DIGIT ZERO³ONE³TWO³THREE³FOUR³FIVE³SIX³SEVEN³EIGHT³NINE"]⟩,
  ⟨0x10e60, [
    "⁰RUMI DIGIT ONE²TWO²THREE²FOUR²FIVE²SIX²SEVEN²EIGHT²NINE¹NUMBER TEN²TWENTY²THIRTY²FORTY",
    "²FIFTY²SIXTY²SEVENTY²EIGHTY²NINETY²ONE HUNDRED²TWO HUNDRED²THREE HUNDRED²FOUR HUNDRED",
    "²FIVE HUNDRED²SIX HUNDRED²SEVEN HUNDRED²EIGHT HUNDRED²NINE HUNDRED¹FRACTION ONE HALF",
    "³QUARTER³THIRD²TWO THIRDS"]⟩,
  ⟨0x10e80, [
    "⁰YEZIDI LETTER ELIF²BE²PE²PHE²THE²SE²CIM²CHIM²CHHIM²HHA²XA²DAL²ZAL²RA²RHA²ZA²JA²SIN²SHIN",
    "²SAD²DAD²TA²ZE²EYN²XHEYN²FA²VA³ALTERNATE FORM²QAF²KAF²KHAF²GAF²LAM²MIM²NUN²UM²WAW²OW²EW",
    "²HAY²YOT²ET"]⟩,
  ⟨0x10eab, ["⁰YEZIDI COMBINING HAMZA MARK²MADDA MARK¹HYPHENATION MARK"]⟩,
  ⟨0x10eb0, ["⁰YEZIDI LETTER LAM WITH DOT ABOVE²YOT WITH CIRCUMFLEX ABOVE"]⟩,
  ⟨0x10f00, [
    "⁰OLD SOGDIAN LETTER ALEPH³FINAL ALEPH³BETH³FINAL BETH³GIMEL³HE³FINAL HE³WAW³ZAYIN³HETH",
    "³YODH³KAPH³LAMEDH³MEM³NUN³FINAL NUN⁵WITH VERTICAL TAIL³SAMEKH³AYIN³ALTERNATE AYIN³PE",
    "³SADHE³FINAL SADHE⁵WITH VERTICAL TAIL³RESH-AYIN-DALETH³SHIN³TAW³FINAL TAW",
    "⁵WITH VERTICAL TAIL²NUMBER ONE³TWO³THREE³FOUR³FIVE³TEN³TWENTY³THIRTY³ONE HUNDRED",
    "²FRACTION ONE HALF²LIGATURE AYIN-DALETH"]⟩,
  ⟨0x10f30, [
    "⁰SOGDIAN LETTER ALEPH²BETH²GIMEL²HE²WAW²ZAYIN²HETH²YODH²KAPH²LAMEDH²MEM²NUN²SAMEKH²AYIN",
    "²PE²SADHE²RESH-AYIN²SHIN²TAW²FETH²LESH¹INDEPENDENT SHIN¹COMBINING DOT BELOW",
    "²TWO DOTS BELOW²DOT ABOVE²TWO DOTS ABOVE²CURVE ABOVE³BELOW²HOOK ABOVE³BELOW",
    "²LONG HOOK BELOW²RESH BELOW²STROKE BELOW¹NUMBER ONE²TEN²TWENTY²ONE HUNDRED",
    "¹PUNCTUATION TWO VERTICAL BARS⁵WITH DOTS²CIRCLE WITH DOT²TWO CIRCLES WITH DOTS",
    "²HALF CIRCLE WITH DOT"]⟩,
  ⟨0x10f70, [
    "⁰OLD UYGHUR LETTER ALEPH³BETH³GIMEL-HETH³WAW³ZAYIN³FINAL HETH³YODH³KAPH³LAMEDH³MEM³NUN",
    "³SAMEKH³PE³SADHE³RESH³SHIN³TAW³LESH²COMBINING DOT ABOVE⁴BELOW³TWO DOTS ABOVE⁵BELOW",
    "²PUNCTUATION BAR³TWO BARS⁴DOTS³FOUR DOTS"]⟩,
  ⟨0x10fb0, [
    "⁰CHORASMIAN LETTER ALEPH²SMALL ALEPH²BETH²GIMEL²DALETH²HE²WAW²CURLED WAW²ZAYIN²HETH²YODH",
    "²KAPH²LAMEDH²MEM²NUN²SAMEKH²AYIN²PE²RESH²SHIN²TAW¹NUMBER ONE²TWO²THREE²FOUR²TEN²TWENTY",
    "²ONE HUNDRED"]⟩,
  ⟨0x10fe0, [
    "⁰ELYMAIC LETTER ALEPH²BETH²GIMEL²DALETH²HE²WAW²ZAYIN²HETH²TETH²YODH²KAPH²LAMEDH²MEM²NUN",
    "²SAMEKH²AYIN²PE²SADHE²QOPH²RESH²SHIN²TAW¹LIGATURE ZAYIN-YODH"]⟩,
  ⟨0x11000, [
    "⁰BRAHMI SIGN CANDRABINDU²ANUSVARA²VISARGA²JIHVAMULIYA²UPADHMANIYA¹LETTER A²AA²I²II²U²UU",
    "²VOCALIC R³RR³L³LL²E²AI²O²AU²KA²KHA²GA²GHA²NGA²CA²CHA²JA²JHA²NYA²TTA²TTHA²DDA²DDHA²NNA",
    "²TA²THA²DA²DHA²NA²PA²PHA²BA²BHA²MA²YA²RA²LA²VA²SHA²SSA²SA²HA²LLA²OLD TAMIL LLLA⁴RRA⁴NNNA",
    "¹VOWEL SIGN AA³BHATTIPROLU AA³I³II³U³UU³VOCALIC R⁴RR⁴L⁴LL³E³AI³O³AU¹VIRAMA¹DANDA",
    "¹DOUBLE DANDA¹PUNCTUATION DOT²DOUBLE DOT²LINE²CRESCENT BAR²LOTUS"]⟩,
  ⟨0x11052, [
    "⁰BRAHMI NUMBER ONE²TWO²THREE²FOUR²FIVE²SIX²SEVEN²EIGHT²NINE²TEN²TWENTY²THIRTY²FORTY",
    "²FIFTY²SIXTY²SEVENTY²EIGHTY²NINETY²ONE HUNDRED³THOUSAND¹DIGIT ZERO²ONE²TWO²THREE²FOUR",
    "²FIVE²SIX²SEVEN²EIGHT²NINE¹SIGN OLD TAMIL VIRAMA¹LETTER OLD TAMIL SHORT E⁵O",
    "¹VOWEL SIGN OLD TAMIL SHORT E⁶O¹LETTER OLD TAMIL LLA"]⟩,
  ⟨0x1107f, [
    "⁰BRAHMI NUMBER JOINER⁰KAITHI SIGN CANDRABINDU²ANUSVARA²VISARGA¹LETTER A²AA²I²II²U²UU²E",
    "²AI²O²AU²KA²KHA²GA²GHA²NGA²CA²CHA²JA²JHA²NYA²TTA²TTHA²DDA²DDDHA²DDHA²RHA²NNA²TA²THA²DA",
    "²DHA²NA²PA²PHA²BA²BHA²MA²YA²RA²LA²VA²SHA²SSA²SA²HA¹VOWEL SIGN AA³I³II³U³UU³E³AI³O³AU",
    "¹SIGN VIRAMA²NUKTA¹ABBREVIATION SIGN¹ENUMERATION SIGN¹NUMBER SIGN¹SECTION MARK",
    "¹DOUBLE SECTION MARK¹DANDA¹DOUBLE DANDA¹VOWEL SIGN VOCALIC R"]⟩,
  ⟨0x110cd, ["⁰KAITHI NUMBER SIGN ABOVE"]⟩,
  ⟨0x110d0, [
    "⁰SORA SOMPENG LETTER SAH³TAH³BAH³CAH³DAH³GAH³MAH³NGAH³LAH³NAH³VAH³PAH³YAH³RAH³HAH³KAH",
    "³JAH³NYAH³AH³EEH³IH³UH³OH³EH³MAE"]⟩,
  ⟨0x110f0, ["⁰SORA SOMPENG DIGIT ZERO³ONE³TWO³THREE³FOUR³FIVE³SIX³SEVEN³EIGHT³NINE"]⟩,
  ⟨0x11100, [
    "⁰CHAKMA SIGN CANDRABINDU²ANUSVARA²VISARGA¹LETTER AA²I²U²E²KAA²KHAA²GAA²GHAA²NGAA²CAA",
    "²CHAA²JAA²JHAA²NYAA²TTAA²TTHAA²DDAA²DDHAA²NNAA²TAA²THAA²DAA²DHAA²NAA²PAA²PHAA²BAA²BHAA",
    "²MAA²YYAA²YAA²RAA²LAA²WAA²SAA²HAA¹VOWEL SIGN A³I³II³U³UU³E³AI³O³AU³OI¹O MARK¹AU MARK",
    "¹VIRAMA¹MAAYYAA"]⟩,
  ⟨0x11136, [
    "⁰CHAKMA DIGIT ZERO²ONE²TWO²THREE²FOUR²FIVE²SIX²SEVEN²EIGHT²NINE¹SECTION MARK¹DANDA",
    "¹DOUBLE DANDA¹QUESTION MARK¹LETTER LHAA¹VOWEL SIGN AA³EI¹LETTER VAA"]⟩,
  ⟨0x11150, [
    "⁰MAHAJANI LETTER A²I²U²E²O²KA²KHA²GA²GHA²CA²CHA²JA²JHA²NYA²TTA²TTHA²DDA²DDHA²NNA²TA²THA",
    "²DA²DHA²NA²PA²PHA²BA²BHA²MA²RA²LA²VA²SA²HA²RRA¹SIGN NUKTA¹ABBREVIATION SIGN¹SECTION MARK",
    "¹LIGATURE SHRI"]⟩,
  ⟨0x11180, [
    "⁰SHARADA SIGN CANDRABINDU²ANUSVARA²VISARGA¹LETTER A²AA²I²II²U²UU²VOCALIC R³RR³L³LL²E²AI",
    "²O²AU²KA²KHA²GA²GHA²NGA²CA²CHA²JA²JHA²NYA²TTA²TTHA²DDA²DDHA²NNA²TA²THA²DA²DHA²NA²PA²PHA",
    "²BA²BHA²MA²YA²RA²LA²LLA²VA²SHA²SSA²SA²HA¹VOWEL SIGN AA³I³II³U³UU³VOCALIC R⁴RR⁴L⁴LL³E³AI",
    "³O³AU¹SIGN VIRAMA²AVAGRAHA²JIHVAMULIYA²UPADHMANIYA¹OM¹DANDA¹DOUBLE DANDA",
    "¹ABBREVIATION SIGN¹SEPARATOR¹SANDHI MARK¹SIGN NUKTA¹VOWEL MODIFIER MARK",
    "¹EXTRA SHORT VOWEL MARK¹SUTRA MARK¹VOWEL SIGN PRISHTHAMATRA E¹SIGN INVERTED CANDRABINDU",
    "¹DIGIT ZERO²ONE²TWO²THREE²FOUR²FIVE²SIX²SEVEN²EIGHT²NINE¹EKAM¹SIGN SIDDHAM¹HEADSTROKE",
    "¹CONTINUATION SIGN¹SECTION MARK-1²MARK-2"]⟩,
  ⟨0x111e1, [
    "⁰SINHALA ARCHAIC DIGIT ONE³TWO³THREE³FOUR³FIVE³SIX³SEVEN³EIGHT³NINE²NUMBER TEN³TWENTY",
    "³THIRTY³FORTY³FIFTY³SIXTY³SEVENTY³EIGHTY³NINETY³ONE HUNDRED⁴THOUSAND"]⟩,
  ⟨0x11200, ["⁰KHOJKI LETTER A²AA²I²U²E²AI²O²AU²KA²KHA²GA²GGA²GHA²NGA²CA²CHA²JA²JJA"]⟩,
  ⟨0x11213, [
    "⁰KHOJKI LETTER NYA²TTA²TTHA²DDA²DDHA²NNA²TA²THA²DA²DDDA²DHA²NA²PA²PHA²BA²BBA²BHA²MA²YA",
    "²RA²LA²VA²SA²HA²LLA¹VOWEL SIGN AA³I³II³U³E³AI³O³AU¹SIGN ANUSVARA²VIRAMA²NUKTA²SHADDA",
    "¹DANDA¹DOUBLE DANDA¹WORD SEPARATOR¹SECTION MARK¹DOUBLE SECTION MARK¹ABBREVIATION SIGN",
    "¹SIGN SUKUN"]⟩,
  ⟨0x11280, ["⁰MULTANI LETTER A²I²U²E²KA²KHA²GA"]⟩,
  ⟨0x11288, ["⁰MULTANI LETTER GHA"]⟩,
  ⟨0x1128a, ["⁰MULTANI LETTER CA²CHA²JA²JJA"]⟩,
  ⟨0x1128f, ["⁰MULTANI LETTER NYA²TTA²TTHA²DDA²DDDA²DDHA²NNA²TA²THA²DA²DHA²NA²PA²PHA²BA"]⟩,
  ⟨0x1129f, ["⁰MULTANI LETTER BHA²MA²YA²RA²LA²VA²SA²HA²RRA²RHA¹SECTION MARK"]⟩,
  ⟨0x112b0, [
    "⁰KHUDAWADI LETTER A²AA²I²II²U²UU²E²AI²O²AU²KA²KHA²GA²GGA²GHA²NGA²CA²CHA²JA²JJA²JHA²NYA",
    "²TTA²TTHA²DDA²DDDA²RRA²DDHA²NNA²TA²THA²DA²DHA²NA²PA²PHA²BA²BBA²BHA²MA²YA²RA²LA²VA²SHA²SA",
    "²HA¹SIGN ANUSVARA¹VOWEL SIGN AA³I³II³U³UU³E³AI³O³AU¹SIGN NUKTA²VIRAMA"]⟩,
  ⟨0x112f0, ["⁰KHUDAWADI DIGIT ZERO²ONE²TWO²THREE²FOUR²FIVE²SIX²SEVEN²EIGHT²NINE"]⟩,
  ⟨0x11300, ["⁰GRANTHA SIGN COMBINING ANUSVARA ABOVE²CANDRABINDU²ANUSVARA²VISARGA"]⟩,
  ⟨0x11305, ["⁰GRANTHA LETTER A²AA²I²II²U²UU²VOCALIC R³L"]⟩,
  ⟨0x1130f, ["⁰GRANTHA LETTER EE²AI"]⟩,
  ⟨0x11313, [
    "⁰GRANTHA LETTER OO²AU²KA²KHA²GA²GHA²NGA²CA²CHA²JA²JHA²NYA²TTA²TTHA²DDA²DDHA²NNA²TA²THA",
    "²DA²DHA²NA"]⟩,
  ⟨0x1132a, ["⁰GRANTHA LETTER PA²PHA²BA²BHA²MA²YA²RA"]⟩,
  ⟨0x11332, ["⁰GRANTHA LETTER LA²LLA"]⟩,
  ⟨0x11335, ["⁰GRANTHA LETTER VA²SHA²SSA²SA²HA"]⟩,
  ⟨0x1133b, [
    "⁰COMBINING BINDU BELOW⁰GRANTHA SIGN NUKTA²AVAGRAHA¹VOWEL SIGN AA³I³II³U³UU³VOCALIC R⁴RR"]⟩,
  ⟨0x11347, ["⁰GRANTHA VOWEL SIGN EE³AI"]⟩,
  ⟨0x1134b, ["⁰GRANTHA VOWEL SIGN OO³AU¹SIGN VIRAMA"]⟩,
  ⟨0x11350, ["⁰GRANTHA OM"]⟩,
  ⟨0x11357, ["⁰GRANTHA AU LENGTH MARK"]⟩,
  ⟨0x1135d, [
    "⁰GRANTHA SIGN PLUTA¹LETTER VEDIC ANUSVARA³DOUBLE ANUSVARA²VOCALIC RR³LL",
    "¹VOWEL SIGN VOCALIC L⁴LL"]⟩,
  ⟨0x11366, ["⁰COMBINING GRANTHA DIGIT ZERO³ONE³TWO³THREE³FOUR³FIVE³SIX"]⟩,
  ⟨0x11370, ["⁰COMBINING GRANTHA LETTER A³KA³NA³VI³PA"]⟩,
  ⟨0x11400, [
    "⁰NEWA LETTER A²AA²I²II²U²UU²VOCALIC R³RR³L³LL²E²AI²O²AU²KA²KHA²GA²GHA²NGA²NGHA²CA²CHA²JA",
    "²JHA²NYA²NYHA²TTA²TTHA²DDA²DDHA²NNA²TA²THA²DA²DHA²NA²NHA²PA²PHA²BA²BHA²MA²MHA²YA²RA²RHA",
    "²LA²LHA²WA²SHA²SSA²SA²HA¹VOWEL SIGN AA³I³II³U³UU³VOCALIC R⁴RR⁴L⁴LL³E³AI³O³AU¹SIGN VIRAMA",
    "²CANDRABINDU²ANUSVARA²VISARGA²NUKTA²AVAGRAHA²FINAL ANUSVARA¹OM¹SIDDHI¹DANDA¹DOUBLE DANDA",
    "¹COMMA¹GAP FILLER¹ABBREVIATION SIGN¹DIGIT ZERO²ONE²TWO²THREE²FOUR²FIVE²SIX²SEVEN²EIGHT",
    "²NINE¹DOUBLE COMMA¹PLACEHOLDER MARK"]⟩,
  ⟨0x1145d, [
    "⁰NEWA INSERTION SIGN¹SANDHI MARK¹LETTER VEDIC ANUSVARA¹SIGN JIHVAMULIYA²UPADHMANIYA"]⟩,
  ⟨0x11480, [
    "⁰TIRHUTA ANJI¹LETTER A²AA²I²II²U²UU²VOCALIC R³RR³L³LL²E²AI²O²AU²KA²KHA²GA²GHA²NGA²CA²CHA",
    "²JA²JHA²NYA²TTA²TTHA²DDA²DDHA²NNA²TA²THA²DA²DHA²NA²PA²PHA²BA²BHA²MA²YA²RA²LA²VA²SHA²SSA",
    "²SA²HA¹VOWEL SIGN AA³I³II³U³UU³VOCALIC R⁴RR⁴L⁴LL³E³SHORT E³AI³O³SHORT O³AU",
    "¹SIGN CANDRABINDU²ANUSVARA²VISARGA²VIRAMA²NUKTA²AVAGRAHA¹GVANG¹ABBREVIATION SIGN¹OM"]⟩,
  ⟨0x114d0, ["⁰TIRHUTA DIGIT ZERO²ONE²TWO²THREE²FOUR²FIVE²SIX²SEVEN²EIGHT²NINE"]⟩,
  ⟨0x11580, [
    "⁰SIDDHAM LETTER A²AA²I²II²U²UU²VOCALIC R³RR³L³LL²E²AI²O²AU²KA²KHA²GA²GHA²NGA²CA²CHA²JA",
    "²JHA²NYA²TTA²TTHA²DDA²DDHA²NNA²TA²THA²DA²DHA²NA²PA²PHA²BA²BHA²MA²YA²RA²LA²VA²SHA²SSA²SA",
    "²HA¹VOWEL SIGN AA³I³II³U³UU³VOCALIC R⁴RR"]⟩,
  ⟨0x115b8, [
    "⁰SIDDHAM VOWEL SIGN E³AI³O³AU¹SIGN CANDRABINDU²ANUSVARA²VISARGA²VIRAMA²NUKTA²SIDDHAM",
    "¹DANDA¹DOUBLE DANDA¹SEPARATOR DOT²BAR¹REPETITION MARK-1²MARK-2²MARK-3¹END OF TEXT MARK",
    "¹SECTION MARK WITH TRIDENT AND U-SHAPED ORNAMENTS⁶DOTTED CRESCENTS",
    "⁴RAYS AND DOTTED CRESCENTS⁷DOUBLE CRESCENTS⁷TRIPLE CRESCENTS³DOUBLE RING⁵WITH RAYS",
    "³WITH DOUBLE CRESCENTS⁴TRIPLE CRESCENTS⁴QUADRUPLE CRESCENTS⁴SEPTUPLE CRESCENTS",
    "⁴CIRCLES AND RAYS⁶TWO ENCLOSURES⁶FOUR ENCLOSURES¹LETTER THREE-CIRCLE ALTERNATE I",
    "²TWO-CIRCLE ALTERNATE I⁴II²ALTERNATE U¹VOWEL SIGN ALTERNATE U⁴UU"]⟩,
  ⟨0x11600, [
    "⁰MODI LETTER A²AA²I²II²U²UU²VOCALIC R³RR³L³LL²E²AI²O²AU²KA²KHA²GA²GHA²NGA²CA²CHA²JA²JHA",
    "²NYA²TTA²TTHA²DDA²DDHA²NNA²TA²THA²DA²DHA²NA²PA²PHA²BA²BHA²MA²YA²RA²LA²VA²SHA²SSA²SA²HA",
    "²LLA¹VOWEL SIGN AA³I³II³U³UU³VOCALIC R⁴RR⁴L⁴LL³E³AI³O³AU¹SIGN ANUSVARA²VISARGA²VIRAMA",
    "²ARDHACANDRA¹DANDA¹DOUBLE DANDA¹ABBREVIATION SIGN¹SIGN HUVA"]⟩,
  ⟨0x11650, ["⁰MODI DIGIT ZERO²ONE²TWO²THREE²FOUR²FIVE²SIX²SEVEN²EIGHT²NINE"]⟩,
  ⟨0x11660, [
    "⁰MONGOLIAN BIRGA WITH ORNAMENT¹ROTATED BIRGA¹DOUBLE BIRGA WITH ORNAMENT",
    "¹TRIPLE BIRGA WITH ORNAMENT¹BIRGA WITH DOUBLE ORNAMENT¹ROTATED BIRGA WITH ORNAMENT",
    "⁴DOUBLE ORNAMENT¹INVERTED BIRGA³WITH DOUBLE ORNAMENT¹SWIRL BIRGA³WITH ORNAMENT",
    "⁴DOUBLE ORNAMENT¹TURNED SWIRL BIRGA WITH DOUBLE ORNAMENT"]⟩,
  ⟨0x11680, [
    "⁰TAKRI LETTER A²AA²I²II²U²UU²E²AI²O²AU²KA²KHA²GA²GHA²NGA²CA²CHA²JA²JHA²NYA²TTA²TTHA²DDA",
    "²DDHA²NNA²TA²THA²DA²DHA²NA²PA²PHA²BA²BHA²MA²YA²RA²LA²VA²SHA²SA²HA²RRA¹SIGN ANUSVARA",
    "²VISARGA¹VOWEL SIGN AA³I³II³U³UU³E³AI³O³AU¹SIGN VIRAMA²NUKTA¹LETTER ARCHAIC KHA",
    "¹ABBREVIATION SIGN"]⟩,
  ⟨0x116c0, ["⁰TAKRI DIGIT ZERO²ONE²TWO²THREE²FOUR²FIVE²SIX²SEVEN²EIGHT²NINE"]⟩,
  ⟨0x11700, [
    "⁰AHOM LETTER KA²KHA²NGA²NA²TA²ALTERNATE TA²PA²PHA²BA²MA²JA²CHA²THA²RA²LA²SA²NYA²HA²A²DA",
    "²DHA²GA²ALTERNATE GA²GHA²BHA²JHA²ALTERNATE BA"]⟩,
  ⟨0x1171d, [
    "⁰AHOM CONSONANT SIGN MEDIAL LA⁴RA⁴LIGATING RA¹VOWEL SIGN A³AA³I³II³U³UU³E³AW³O³AI³AM",
    "¹SIGN KILLER"]⟩,
  ⟨0x11730, [
    "⁰AHOM DIGIT ZERO²ONE²TWO²THREE²FOUR²FIVE²SIX²SEVEN²EIGHT²NINE¹NUMBER TEN²TWENTY",
    "¹SIGN SMALL SECTION²SECTION²RULAI¹SYMBOL VI¹LETTER CA²TTA²TTHA²DDA²DDHA²NNA²LLA"]⟩,
  ⟨0x11800, [
    "⁰DOGRA LETTER A²AA²I²II²U²UU²E²AI²O²AU²KA²KHA²GA²GHA²NGA²CA²CHA²JA²JHA²NYA²TTA²TTHA²DDA",
    "²DDHA²NNA²TA²THA²DA²DHA²NA²PA²PHA²BA²BHA²MA²YA²RA²LA²VA²SHA²SSA²SA²HA²RRA¹VOWEL SIGN AA",
    "³I³II³U³UU³VOCALIC R⁴RR³E³AI³O³AU¹SIGN ANUSVARA²VISARGA²VIRAMA²NUKTA¹ABBREVIATION SIGN"]⟩,
  ⟨0x118a0, [
    "⁰WARANG CITI CAPITAL LETTER NGAA⁴A⁴WI⁴YU⁴YA⁴YO⁴II⁴UU⁴E⁴O⁴ANG⁴GA⁴KO⁴ENY⁴YUJ⁴UC⁴ENN⁴ODD",
    "⁴TTE⁴NUNG⁴DA⁴AT⁴AM⁴BU⁴PU⁴HIYO⁴HOLO⁴HORR⁴HAR⁴SSUU⁴SII⁴VIYO²SMALL LETTER NGAA⁴A⁴WI⁴YU⁴YA",
    "⁴YO⁴II⁴UU⁴E⁴O⁴ANG⁴GA⁴KO⁴ENY⁴YUJ⁴UC⁴ENN⁴ODD⁴TTE⁴NUNG⁴DA⁴AT⁴AM⁴BU⁴PU⁴HIYO⁴HOLO⁴HORR⁴HAR",
    "⁴SSUU⁴SII⁴VIYO²DIGIT ZERO³ONE³TWO³THREE³FOUR³FIVE³SIX³SEVEN³EIGHT³NINE²NUMBER TEN³TWENTY",
    "³THIRTY³FORTY³FIFTY³SIXTY³SEVENTY³EIGHTY³NINETY"]⟩,
  ⟨0x118ff, ["⁰WARANG CITI OM⁰DIVES AKURU LETTER A³AA³I³II³U³UU³E"]⟩,
  ⟨0x11909, ["⁰DIVES AKURU LETTER O"]⟩,
  ⟨0x1190c, ["⁰DIVES AKURU LETTER KA³KHA³GA³GHA³NGA³CA³CHA³JA"]⟩,
  ⟨0x11915, ["⁰DIVES AKURU LETTER NYA³TTA"]⟩,
  ⟨0x11918, [
    "⁰DIVES AKURU LETTER DDA³DDHA³NNA³TA³THA³DA³DHA³NA³PA³PHA³BA³BHA³MA³YA³YYA³RA³LA³VA³SHA",
    "³SSA³SA³HA³LLA³ZA²VOWEL SIGN AA⁴I⁴II⁴U⁴UU⁴E"]⟩,
  ⟨0x11937, ["⁰DIVES AKURU VOWEL SIGN AI⁴O"]⟩,
  ⟨0x1193b, [
    "⁰DIVES AKURU SIGN ANUSVARA³CANDRABINDU³HALANTA²VIRAMA²PREFIXED NASAL SIGN²MEDIAL YA",
    "²INITIAL RA²MEDIAL RA²SIGN NUKTA²DOUBLE DANDA²GAP FILLER²END OF TEXT MARK"]⟩,
  ⟨0x11950, ["⁰DIVES AKURU DIGIT ZERO³ONE³TWO³THREE³FOUR³FIVE³SIX³SEVEN³EIGHT³NINE"]⟩,
  ⟨0x119a0, ["⁰NANDINAGARI LETTER A²AA²I²II²U²UU²VOCALIC R³RR"]⟩,
  ⟨0x119aa, [
    "⁰NANDINAGARI LETTER E²AI²O²AU²KA²KHA²GA²GHA²NGA²CA²CHA²JA²JHA²NYA²TTA²TTHA²DDA²DDHA²NNA",
    "²TA²THA²DA²DHA²NA²PA²PHA²BA²BHA²MA²YA²RA²LA²VA²SHA²SSA²SA²HA²LLA²RRA¹VOWEL SIGN AA³I³II",
    "³U³UU³VOCALIC R⁴RR"]⟩,
  ⟨0x119da, [
    "⁰NANDINAGARI VOWEL SIGN E³AI³O³AU¹SIGN ANUSVARA²VISARGA²VIRAMA²AVAGRAHA²SIDDHAM",
    "¹HEADSTROKE¹VOWEL SIGN PRISHTHAMATRA E"]⟩,
  ⟨0x11a00, [
    "⁰ZANABAZAR SQUARE LETTER A²VOWEL SIGN I⁴UE⁴U⁴E⁴OE⁴O⁴AI⁴AU⁴REVERSED I³LENGTH MARK",
    "²LETTER KA³KHA³GA³GHA³NGA³CA³CHA³JA³NYA³TTA³TTHA³DDA³DDHA³NNA³TA³THA³DA³DHA³NA³PA³PHA³BA",
    "³BHA³MA³TSA³TSHA³DZA³DZHA³ZHA³ZA³-A³YA³RA³LA³VA³SHA³SSA³SA³HA³KSSA²FINAL CONSONANT MARK",
    "²SIGN VIRAMA³CANDRABINDU⁴WITH ORNAMENT³CANDRA WITH ORNAMENT³ANUSVARA³VISARGA",
    "²CLUSTER-INITIAL LETTER RA²CLUSTER-FINAL LETTER YA⁴RA⁴LA⁴VA²INITIAL HEAD MARK",
    "²CLOSING HEAD MARK²MARK TSHEG³SHAD³DOUBLE SHAD³LONG TSHEG²INITIAL DOUBLE-LINED HEAD MARK",
    "²CLOSING DOUBLE-LINED HEAD MARK²SUBJOINER"]⟩,
  ⟨0x11a50, [
    "⁰SOYOMBO LETTER A¹VOWEL SIGN I³UE³U³E³O³OE³AI³AU³VOCALIC R⁴L²LENGTH MARK¹LETTER KA²KHA",
    "²GA²GHA²NGA²CA²CHA²JA²JHA²NYA²TTA²TTHA²DDA²DDHA²NNA²TA²THA²DA²DHA²NA²PA²PHA²BA²BHA²MA",
    "²TSA²TSHA²DZA²ZHA²ZA²-A²YA²RA²LA²VA²SHA²SSA²SA²HA²KSSA¹SIGN JIHVAMULIYA²UPADHMANIYA",
    "¹CLUSTER-INITIAL LETTER RA³LA³SHA³SA¹FINAL CONSONANT SIGN G⁴K⁴NG⁴D⁴N⁴B⁴M⁴R⁴L⁴SH⁴S⁴-A",
    "¹SIGN ANUSVARA²VISARGA¹GEMINATION MARK¹SUBJOINER¹MARK TSHEG²SHAD²DOUBLE SHAD²PLUTA",
    "¹HEAD MARK WITH MOON AND SUN AND TRIPLE FLAME⁸FLAME⁶SUN¹TERMINAL MARK-1²MARK-2"]⟩,
  ⟨0x11ab0, [
    "⁰CANADIAN SYLLABICS NATTILIK HI³HII³HO³HOO³HA³HAA³SHRI³SHRII³SHRO³SHROO³SHRA³SHRAA²SPE",
    "²SPI²SPO²SPA⁰PAU CIN HAU LETTER PA⁴KA⁴LA⁴MA⁴DA⁴ZA⁴VA⁴NGA⁴HA⁴GA⁴KHA⁴SA⁴BA⁴CA⁴TA⁴THA⁴NA",
    "⁴PHA⁴RA⁴FA⁴CHA⁴A⁴E⁴I⁴O⁴U⁴UA⁴IA⁴FINAL P⁵K⁵T⁵M⁵N⁵L⁵W⁵NG⁵Y³RISING TONE LONG⁴TONE",
    "³SANDHI GLOTTAL STOP³RISING TONE LONG FINAL⁵FINAL³SANDHI GLOTTAL STOP FINAL⁴TONE LONG",
    "⁴TONE⁵LONG FINAL⁵FINAL³MID-LEVEL TONE³GLOTTAL STOP VARIANT³MID-LEVEL TONE LONG FINAL",
    "⁵FINAL³LOW-FALLING TONE LONG⁴TONE³GLOTTAL STOP³LOW-FALLING TONE LONG FINAL⁵FINAL",
    "³GLOTTAL STOP FINAL"]⟩,
  ⟨0x11c00, ["⁰BHAIKSUKI LETTER A²AA²I²II²U²UU²VOCALIC R³RR³L"]⟩,
  ⟨0x11c0a, [
    "⁰BHAIKSUKI LETTER E²AI²O²AU²KA²KHA²GA²GHA²NGA²CA²CHA²JA²JHA²NYA²TTA²TTHA²DDA²DDHA²NNA²TA",
    "²THA²DA²DHA²NA²PA²PHA²BA²BHA²MA²YA²RA²LA²VA²SHA²SSA²SA²HA¹VOWEL SIGN AA³I³II³U³UU",
    "³VOCALIC R⁴RR⁴L"]⟩,
  ⟨0x11c38, [
    "⁰BHAIKSUKI VOWEL SIGN E³AI³O³AU¹SIGN CANDRABINDU²ANUSVARA²VISARGA²VIRAMA²AVAGRAHA¹DANDA",
    "¹DOUBLE DANDA¹WORD SEPARATOR¹GAP FILLER-1²FILLER-2"]⟩,
  ⟨0x11c50, [
    "⁰BHAIKSUKI DIGIT ZERO²ONE²TWO²THREE²FOUR²FIVE²SIX²SEVEN²EIGHT²NINE¹NUMBER ONE²TWO²THREE",
    "²FOUR²FIVE²SIX²SEVEN²EIGHT²NINE²TEN²TWENTY²THIRTY²FORTY²FIFTY²SIXTY²SEVENTY²EIGHTY",
    "²NINETY¹HUNDREDS UNIT MARK"]⟩,
  ⟨0x11c70, [
    "⁰MARCHEN HEAD MARK¹MARK SHAD¹LETTER KA²KHA²GA²NGA²CA²CHA²JA²NYA²TA²THA²DA²NA²PA²PHA²BA",
    "²MA²TSA²TSHA²DZA²WA²ZHA²ZA²-A²YA²RA²LA²SHA²SA²HA²A"]⟩,
  ⟨0x11c92, [
    "⁰MARCHEN SUBJOINED LETTER KA³KHA³GA³NGA³CA³CHA³JA³NYA³TA³THA³DA³NA³PA³PHA³BA³MA³TSA³TSHA",
    "³DZA³WA³ZHA³ZA"]⟩,
  ⟨0x11ca9, [
    "⁰MARCHEN SUBJOINED LETTER YA³RA³LA³SHA³SA³HA³A¹VOWEL SIGN AA³I³U³E³O¹SIGN ANUSVARA",
    "²CANDRABINDU"]⟩,
  ⟨0x11d00, ["⁰MASARAM GONDI LETTER A³AA³I³II³U³UU³E"]⟩,
  ⟨0x11d08, ["⁰MASARAM GONDI LETTER AI³O"]⟩,
  ⟨0x11d0b, [
    "⁰MASARAM GONDI LETTER AU³KA³KHA³GA³GHA³NGA³CA³CHA³JA³JHA³NYA³TTA³TTHA³DDA³DDHA³NNA³TA",
    "³THA³DA³DHA³NA³PA³PHA³BA³BHA³MA³YA³RA³LA³VA³SHA³SSA³SA³HA³LLA³KSSA³JNYA³TRA",
    "²VOWEL SIGN AA⁴I⁴II⁴U⁴UU⁴VOCALIC R"]⟩,
  ⟨0x11d3a, ["⁰MASARAM GONDI VOWEL SIGN E"]⟩,
  ⟨0x11d3c, ["⁰MASARAM GONDI VOWEL SIGN AI⁴O"]⟩,
  ⟨0x11d3f, [
    "⁰MASARAM GONDI VOWEL SIGN AU²SIGN ANUSVARA³VISARGA³NUKTA³CANDRA³HALANTA²VIRAMA²REPHA",
    "²RA-KARA"]⟩,
  ⟨0x11d50, ["⁰MASARAM GONDI DIGIT ZERO³ONE³TWO³THREE³FOUR³FIVE³SIX³SEVEN³EIGHT³NINE"]⟩,
  ⟨0x11d60, ["⁰GUNJALA GONDI LETTER A³AA³I³II³U³UU"]⟩,
  ⟨0x11d67, ["⁰GUNJALA GONDI LETTER EE³AI"]⟩,
  ⟨0x11d6a, [
    "⁰GUNJALA GONDI LETTER OO³AU³YA³VA³BA³BHA³MA³KA³KHA³TA³THA³LA³GA³GHA³DA³DHA³NA³CA³CHA³TTA",
    "³TTHA³LLA³JA³JHA³DDA³DDHA³NGA³PA³PHA³HA³RA³SA²VOWEL SIGN AA⁴I⁴II⁴U⁴UU"]⟩,
  ⟨0x11d90, ["⁰GUNJALA GONDI VOWEL SIGN EE⁴AI"]⟩,
  ⟨0x11d93, ["⁰GUNJALA GONDI VOWEL SIGN OO⁴AU²SIGN ANUSVARA³VISARGA²VIRAMA²OM"]⟩,
  ⟨0x11da0, ["⁰GUNJALA GONDI DIGIT ZERO³ONE³TWO³THREE³FOUR³FIVE³SIX³SEVEN³EIGHT³NINE"]⟩,
  ⟨0x11ee0, [
    "⁰MAKASAR LETTER KA²GA²NGA²PA²BA²MA²TA²DA²NA²CA²JA²NYA²YA²RA²LA²VA²SA²A¹ANGKA",
    "¹VOWEL SIGN I³U³E³O¹PASSIMBANG¹END OF SECTION"]⟩,
  ⟨0x11fb0, ["⁰LISU LETTER YHA"]⟩,
  ⟨0x11fc0, [
    "⁰TAMIL FRACTION ONE THREE-HUNDRED-AND-TWENTIETH³ONE-HUNDRED-AND-SIXTIETH³EIGHTIETH",
    "³SIXTY-FOURTH³FORTIETH³THIRTY-SECOND²THREE EIGHTIETHS³SIXTY-FOURTHS²ONE TWENTIETH",
    "³SIXTEENTH-1³SIXTEENTH-2³TENTH³EIGHTH²THREE TWENTIETHS³SIXTEENTHS²ONE FIFTH³QUARTER",
    "³HALF-1³HALF-2²THREE QUARTERS²DOWNSCALING FACTOR KIIZH¹SIGN NEL²CEVITU²AAZHAAKKU²UZHAKKU",
    "²MUUVUZHAKKU²KURUNI²PATHAKKU²MUKKURUNI²KAACU²PANAM²PON²VARAAKAN²PAARAM²KUZHI²VELI",
    "¹WET CULTIVATION SIGN¹DRY CULTIVATION SIGN¹LAND SIGN¹SALT PAN SIGN",
    "¹TRADITIONAL CREDIT SIGN²NUMBER SIGN¹CURRENT SIGN¹AND ODD SIGN¹SPENT SIGN¹TOTAL SIGN",
    "¹IN POSSESSION SIGN¹STARTING FROM SIGN¹SIGN MUTHALIYA²VAKAIYARAA"]⟩,
  ⟨0x11fff, ["⁰TAMIL PUNCTUATION END OF TEXT"]⟩]

end BlockLang.CharName
