import BlockLang.Encoding.CharName.Basic

/-! # Names of cuneiform signs and hieroglyphs -/

namespace BlockLang.CharName

/-- The names of cuneiform signs and of hieroglyphs. -/
def cuneiform : List Run := [
  ⟨0x12000, [
    "⁰CUNEIFORM SIGN A³TIMES A⁴BAD⁴GAN2 TENU⁴HA⁴IGI⁴LAGAR GUNU⁴MUSH⁴SAG²A2²AB³TIMES ASH2",
    "⁴DUN3 GUNU⁴GAL⁴GAN2 TENU⁴HA⁴IGI GUNU⁴IMIN⁴LAGAB⁴SHESH⁴U PLUS U PLUS U³GUNU²AB2",
    "³TIMES BALAG⁴GAN2 TENU⁴ME PLUS EN⁴SHA3⁴TAK4²AD²AK³TIMES ERIN2⁴SHITA PLUS GISH²AL",
    "³TIMES AL⁴DIM2⁴GISH⁴HA⁴KAD3⁴KI⁴SHE⁴USH²ALAN²ALEPH²AMAR³TIMES SHE²AN³OVER AN³THREE TIMES",
    "³PLUS NAGA OPPOSING AN PLUS NAGA⁵SQUARED²ANSHE²APIN²ARAD³TIMES KUR²ARKAB²ASAL2²ASH",
    "³ZIDA TENU³KABA TENU³OVER ASH TUG2 OVER TUG2 TUG2 OVER TUG2 PAP⁵OVER ASH",
    "⁷CROSSING ASH OVER ASH OVER ASH²ASH2²ASHGAB²BA²BAD²BAG3²BAHAR2²BAL³OVER BAL²BALAG²BAR",
    "²BARA2²BI³TIMES A⁴GAR⁴IGI GUNU²BU³OVER BU AB⁵UN³CROSSING BU²BULUG³OVER BULUG²BUR²BUR2²DA",
    "²DAG³KISIM5 TIMES A PLUS MASH⁵AMAR⁵BALAG⁵BI⁵GA⁶PLUS MASH⁵GI⁵GIR2⁵GUD⁵HA⁵IR⁶PLUS LU⁵KAK",
    "⁵LA⁵LU⁶PLUS MASH2⁵LUM⁵NE⁵PAP PLUS PAP⁵SI⁵TAK4⁵U2 PLUS GIR2⁵USH²DAM²DAR²DARA3²DARA4²DI",
    "²DIB²DIM³TIMES SHE²DIM2²DIN³KASKAL U GUNU DISH²DISH²DU³OVER DU³GUNU³SHESHIG²DUB",
    "³TIMES ESH2²DUB2²DUG²DUGUD²DUH²DUN²DUN3³GUNU⁴GUNU²DUN4²DUR2²E³TIMES PAP",
    "³OVER E NUN OVER NUN²E2³TIMES A PLUS HA PLUS DA⁴GAR⁴MI⁴SAL⁴SHE⁴U²EDIN²EGIR²EL²EN",
    "³TIMES GAN2⁵TENU⁴ME³CROSSING EN³OPPOSING EN³SQUARED²EREN²ERIN2²ESH2²EZEN³TIMES A",
    "⁵PLUS LAL⁷TIMES LAL⁴AN⁴BAD⁴DUN3 GUNU⁶GUNU⁴HA⁵GUNU⁴IGI GUNU⁴KASKAL⁵SQUARED⁴KU3⁴LA",
    "⁴LAL TIMES LAL⁴LI⁴LU⁴U2⁴UD²GA³GUNU²GA2³TIMES A PLUS DA PLUS HA⁶HA⁶IGI⁴AB2 TENU PLUS TAB",
    "⁴AN⁴ASH⁴ASH2 PLUS GAL⁴BAD⁴BAR PLUS RA⁴BUR⁵PLUS RA⁴DA⁴DI⁴DIM TIMES SHE⁴DUB⁴EL⁵PLUS LA⁴EN",
    "⁵TIMES GAN2 TENU⁴GAN2 TENU⁴GAR⁴GI⁴GI4⁵PLUS A⁴GIR2 PLUS SU⁴HA PLUS LU PLUS ESH2⁴HAL",
    "⁵PLUS LA⁴HI PLUS LI⁴HUB2⁴IGI GUNU⁴ISH PLUS HU PLUS ASH⁴KAK⁴KASKAL⁴KID⁵PLUS LAL",
    "⁴KU3 PLUS AN⁴LA⁴ME PLUS EN⁴MI⁴NUN⁵OVER NUN⁴PA⁴SAL⁴SAR⁴SHE⁵PLUS TUR⁴SHID⁴SUM⁴TAK4⁴U⁴UD",
    "⁵PLUS DU³OVER GA2²GABA³CROSSING GABA²GAD³OVER GAD GAR OVER GAR²GAL",
    "³GAD OVER GAD GAR OVER GAR²GALAM²GAM²GAN²GAN2³TENU³OVER GAN2³CROSSING GAN2²GAR²GAR3",
    "²GASHAN²GESHTIN³TIMES KUR²GI³TIMES E⁴U³CROSSING GI²GI4³OVER GI4³CROSSING GI4²GIDIM²GIR2",
    "³GUNU²GIR3³TIMES A PLUS IGI⁴GAN2 TENU⁴IGI⁴LU PLUS IGI⁴PA²GISAL²GISH³CROSSING GISH",
    "³TIMES BAD⁴TAK4³TENU²GU³CROSSING GU²GU2³TIMES KAK⁵TIMES IGI GUNU⁴NUN⁴SAL PLUS TUG2³GUNU",
    "²GUD³TIMES A PLUS KUR⁴KUR³OVER GUD LUGAL²GUL²GUM³TIMES SHE²GUR²GUR7²GURUN²GURUSH²HA³TENU",
    "³GUNU²HAL²HI³TIMES ASH⁴ASH2⁴BAD⁴DISH⁴GAD⁴KIN⁴NUN⁴SHE⁴U²HU²HUB2³TIMES AN⁴HAL⁴KASKAL⁴LISH",
    "⁴UD²HUL2²I³A²IB²IDIM³OVER IDIM BUR⁵SQUARED²IG²IGI³DIB³RI",
    "³OVER IGI SHIR OVER SHIR UD OVER UD³GUNU²IL³TIMES GAN2 TENU²IL2²IM³TIMES TAK4",
    "³CROSSING IM³OPPOSING IM³SQUARED²IMIN²IN²IR²ISH²KA³TIMES A⁴AD⁵PLUS KU3⁴ASH2⁴BAD⁴BALAG",
    "⁴BAR⁴BI⁴ERIN2⁴ESH2⁴GA⁴GAL⁴GAN2 TENU⁴GAR⁵PLUS SHA3 PLUS A⁴GI⁴GIR2⁴GISH PLUS SAR",
    "⁵CROSSING GISH⁴GU⁴GUR7⁴IGI⁴IM⁴KAK⁴KI⁴KID⁴LI⁴LU⁴ME⁵PLUS DU⁶GI⁶TE⁴MI⁵PLUS NUNUZ⁴NE⁴NUN⁴PI",
    "⁴RU⁴SA⁴SAR⁴SHA⁴SHE⁴SHID⁴SHU⁴SIG⁴SUHUR⁴TAR⁴U⁴U2⁴UD⁴UMUM TIMES PA⁴USH⁴ZI²KA2³CROSSING KA2",
    "²KAB²KAD2²KAD3²KAD4²KAD5³OVER KAD5²KAK³TIMES IGI GUNU²KAL³TIMES BAD³CROSSING KAL²KAM2",
    "²KAM4²KASKAL³LAGAB TIMES U OVER LAGAB TIMES U",
    "³OVER KASKAL LAGAB TIMES U OVER LAGAB TIMES U²KESH2²KI³TIMES BAD⁴U⁴UD²KID²KIN²KISAL²KISH",
    "²KISIM5³OVER KISIM5²KU³OVER HI TIMES ASH2 KU OVER HI TIMES ASH2²KU3²KU4³VARIANT FORM²KU7",
    "²KUL³GUNU²KUN²KUR³OPPOSING KUR²KUSHU2²KWU318²LA²LAGAB³TIMES A⁵PLUS DA PLUS HA⁶GAR⁶LAL⁴AL",
    "⁴AN⁴ASH ZIDA TENU⁴BAD⁴BI⁴DAR⁴EN⁴GA⁴GAR⁴GUD⁵PLUS GUD⁴HA⁴HAL⁴HI TIMES NUN⁴IGI GUNU⁴IM",
    "⁵PLUS HA⁶LU⁴KI⁴KIN⁴KU3⁴KUL⁵PLUS HI PLUS A⁴LAGAB⁴LISH⁴LU⁴LUL⁴ME⁵PLUS EN⁴MUSH⁴NE",
    "⁴SHE PLUS SUM⁴SHITA PLUS GISH PLUS ERIN2⁷TENU⁴SHU2⁵PLUS SHU2⁴SUM⁴TAG⁴TAK4",
    "⁴TE PLUS A PLUS SU PLUS NA⁴U⁵PLUS A⁶U PLUS U⁴U2 PLUS ASH⁴UD⁴USH³SQUARED²LAGAR³TIMES SHE",
    "⁵PLUS SUM³GUNU⁴OVER LAGAR GUNU SHE²LAHSHU²LAL³TIMES LAL²LAM³TIMES KUR⁵PLUS RU²LI²LIL",
    "²LIMMU2²LISH²LU³TIMES BAD²LU2³TIMES AL⁴BAD⁴ESH2⁵TENU⁴GAN2 TENU⁴HI TIMES BAD⁴IM⁴KAD2⁴KAD3",
    "⁵PLUS ASH⁴KI⁴LA PLUS ASH⁴LAGAB⁴ME PLUS EN⁴NE⁴NU⁴SI PLUS ASH⁴SIK2 PLUS BU⁴TUG2³TENU",
    "³CROSSING LU2³OPPOSING LU2³SQUARED³SHESHIG²LU3²LUGAL³OVER LUGAL³OPPOSING LUGAL³SHESHIG",
    "²LUH²LUL²LUM³OVER LUM⁵GAR OVER GAR²MA³TIMES TAK4³GUNU²MA2²MAH²MAR²MASH²MASH2²ME²MES²MI",
    "²MIN²MU³OVER MU²MUG³GUNU²MUNSUB²MURGU2²MUSH³TIMES A⁴KUR⁴ZA³OVER MUSH⁵TIMES A PLUS NA",
    "³CROSSING MUSH²MUSH3³TIMES A⁵PLUS DI⁴DI³GUNU²NA²NA2²NAGA³INVERTED³TIMES SHU TENU",
    "³OPPOSING NAGA²NAGAR²NAM NUTILLU²NAM²NAM2²NE³TIMES A⁴UD³SHESHIG²NI³TIMES E²NI2²NIM",
    "³TIMES GAN2 TENU⁴GAR PLUS GAN2 TENU²NINDA2³TIMES AN⁴ASH⁵PLUS ASH⁴GUD⁴ME PLUS GAN2 TENU",
    "⁴NE⁴NUN⁴SHE⁵PLUS A AN⁶ASH⁷PLUS ASH⁴U2 PLUS ASH⁴USH²NISAG²NU²NU11²NUN³LAGAR TIMES GAR",
    "⁵MASH⁵SAL⁶OVER NUN LAGAR TIMES SAL⁵USH³TENU³OVER NUN³CROSSING NUN⁵LAGAR OVER LAGAR²NUNUZ",
    "³AB2 TIMES ASHGAB⁵BI⁵DUG⁵GUD⁵IGI GUNU⁵KAD3⁵LA⁵NE⁵SILA3⁵U2³KISIM5 TIMES BI⁶U²PA²PAD²PAN",
    "²PAP²PESH2²PI³TIMES A⁴AB⁴BI⁴BU⁴E⁴I⁴IB⁴U⁴U2³CROSSING PI²PIRIG³TIMES KAL⁴UD⁴ZA",
    "³OPPOSING PIRIG²RA²RAB²RI²RU²SA²SAG NUTILLU²SAG³TIMES A⁴DU⁴DUB⁴HA⁴KAK⁴KUR⁴LUM⁴MI⁴NUN⁴SAL",
    "⁴SHID⁴TAB⁴U2⁴UB⁴UM⁴UR⁴USH³OVER SAG³GUNU²SAL³LAGAB TIMES ASH2²SANGA2²SAR²SHA²SHA3³TIMES A",
    "⁴BAD⁴GISH⁴NE⁴SHU2⁴TUR⁴U⁵PLUS A²SHA6²SHAB6²SHAR2²SHE³HU",
    "³OVER SHE GAD OVER GAD GAR OVER GAR⁵TAB OVER TAB GAR OVER GAR²SHEG9²SHEN²SHESH²SHESH2",
    "²SHESHLAM²SHID³TIMES A⁴IM²SHIM³TIMES A⁴BAL⁴BULUG⁴DIN⁴GAR⁴IGI⁵GUNU⁴KUSHU2⁴LUL⁴MUG⁴SAL",
    "²SHINIG²SHIR³TENU³OVER SHIR BUR OVER BUR²SHITA²SHU³OVER INVERTED SHU²SHU2²SHUBUR²SI³GUNU",
    "²SIG²SIG4³OVER SIG4 SHU2²SIK2²SILA3²SU³OVER SU²SUD²SUD2²SUHUR²SUM²SUMASH²SUR²SUR9²TA",
    "³ASTERISK³TIMES HI⁴MI³GUNU²TAB³OVER TAB NI OVER NI DISH OVER DISH³SQUARED²TAG³TIMES BI",
    "⁴GUD⁴SHE⁴SHU⁴TUG2⁴UD²TAK4²TAR²TE³GUNU²TI³TENU²TIL²TIR³TIMES TAK4³OVER TIR",
    "⁵GAD OVER GAD GAR OVER GAR²TU²TUG2²TUK²TUM²TUR³OVER TUR ZA OVER ZA²U³GUD³U U",
    "³OVER U PA OVER PA GAR OVER GAR⁵SUR OVER SUR⁵U REVERSED OVER U REVERSED²U2²UB²UD³KUSHU2",
    "³TIMES BAD⁴MI⁴U PLUS U PLUS U⁹GUNU³GUNU³SHESHIG⁴TIMES BAD²UDUG²UM³TIMES LAGAB⁴ME PLUS DA",
    "⁴SHA3⁴U²UMBIN²UMUM³TIMES KASKAL⁴PA²UN³GUNU²UR³CROSSING UR³SHESHIG²UR2³TIMES A PLUS HA⁶NA",
    "⁴AL⁴HA⁴NUN⁴U2⁵PLUS ASH⁶BI²UR4²URI²URI3²URU³TIMES A⁴ASHGAB⁴BAR⁴DUN⁴GA⁴GAL⁴GAN2 TENU⁴GAR",
    "⁴GU⁴HA⁴IGI⁴IM⁴ISH⁴KI⁴LUM⁴MIN⁴PA⁴SHE⁴SIG4⁴TU⁴U PLUS GUD⁴UD⁴URUDA²URUDA³TIMES U²USH",
    "³TIMES A⁴KU⁴KUR⁴TAK4²USHX²USH2²USHUMX²UTUKI²UZ3³TIMES KASKAL²UZU²ZA³TENU",
    "³SQUARED TIMES KUR²ZAG²ZAMX²ZE2²ZI³OVER ZI²ZI3²ZIB³KABA TENU²ZIG²ZIZ2²ZU²ZU5³TIMES A",
    "²ZUBUR²ZUM²KAP ELAMITE²AB TIMES NUN²AB2 TIMES A²AMAR TIMES KUG",
    "²DAG KISIM5 TIMES U2 PLUS MASH²DAG3²DISH PLUS SHU²DUB TIMES SHE²EZEN TIMES GUD⁴SHE",
    "²GA2 TIMES AN PLUS KAK PLUS A⁴ASH2²GE22²GIG²HUSH²KA TIMES ANSHE⁴ASH3⁴GISH⁴GUD",
    "⁴HI TIMES ASH2⁴LUM⁴PA⁴SHUL⁴TU⁴UR2²LAGAB TIMES GI²LU2 SHESHIG TIMES BAD",
    "³TIMES ESH2 PLUS LAL⁴SHU²MESH²MUSH3 TIMES ZA²NA4²NIN²NIN9²NINDA2 TIMES BAL⁴GI",
    "²NU11 ROTATED NINETY DEGREES²PESH2 ASTERISK²PIR2²SAG TIMES IGI GUNU²TI2²UM TIMES ME²U U"]⟩,
  ⟨0x12400, [
    "⁰CUNEIFORM NUMERIC SIGN TWO ASH³THREE ASH³FOUR ASH³FIVE ASH³SIX ASH³SEVEN ASH³EIGHT ASH",
    "³NINE ASH³THREE DISH³FOUR DISH³FIVE DISH³SIX DISH³SEVEN DISH³EIGHT DISH³NINE DISH³FOUR U",
    "³FIVE U³SIX U³SEVEN U³EIGHT U³NINE U³ONE GESH2³TWO GESH2³THREE GESH2³FOUR GESH2",
    "³FIVE GESH2³SIX GESH2³SEVEN GESH2³EIGHT GESH2³NINE GESH2³ONE GESHU³TWO GESHU³THREE GESHU",
    "³FOUR GESHU³FIVE GESHU³TWO SHAR2³THREE SHAR2⁵VARIANT FORM³FOUR SHAR2³FIVE SHAR2",
    "³SIX SHAR2³SEVEN SHAR2³EIGHT SHAR2³NINE SHAR2³ONE SHARU³TWO SHARU³THREE SHARU",
    "⁵VARIANT FORM³FOUR SHARU³FIVE SHARU³SHAR2 TIMES GAL PLUS DISH⁷MIN³ONE BURU³TWO BURU",
    "³THREE BURU⁵VARIANT FORM³FOUR BURU³FIVE BURU³THREE VARIANT FORM ESH16⁶ESH21",
    "³FOUR VARIANT FORM LIMMU⁶LIMMU4⁶LIMMU A⁷B³SIX VARIANT FORM ASH9³SEVEN VARIANT FORM IMIN3",
    "⁶IMIN A⁷B³EIGHT VARIANT FORM USSU⁶USSU3³NINE VARIANT FORM ILIMMU⁶ILIMMU3⁶ILIMMU4",
    "⁶ILIMMU A³TWO ASH TENU³THREE ASH TENU³FOUR ASH TENU³FIVE ASH TENU³SIX ASH TENU³ONE BAN2",
    "³TWO BAN2³THREE BAN2³FOUR BAN2⁵VARIANT FORM³FIVE BAN2⁵VARIANT FORM³NIGIDAMIN³NIGIDAESH",
    "³ONE ESHE3³TWO ESHE3³ONE THIRD DISH³TWO THIRDS DISH³FIVE SIXTHS DISH",
    "³ONE THIRD VARIANT FORM A³TWO THIRDS VARIANT FORM A³ONE EIGHTH ASH⁴QUARTER ASH",
    "³OLD ASSYRIAN ONE SIXTH⁶QUARTER³ONE QUARTER GUR⁴HALF GUR³ELAMITE ONE THIRD⁴TWO THIRDS",
    "⁴FORTY⁴FIFTY³FOUR U VARIANT FORM³FIVE U VARIANT FORM³SIX U VARIANT FORM",
    "³SEVEN U VARIANT FORM³EIGHT U VARIANT FORM³NINE U VARIANT FORM"]⟩,
  ⟨0x12470, [
    "⁰CUNEIFORM PUNCTUATION SIGN OLD ASSYRIAN WORD DIVIDER³VERTICAL COLON³DIAGONAL COLON",
    "⁴TRICOLON⁴QUADCOLON"]⟩,
  ⟨0x12480, [
    "⁰CUNEIFORM SIGN AB TIMES NUN TENU⁴SHU2²AD TIMES ESH2²BAD TIMES DISH TENU",
    "²BAHAR2 TIMES AB2⁴NI⁴ZA²BU OVER BU TIMES NA2²DA TIMES TAK4²DAG TIMES KUR²DIM TIMES IGI",
    "⁴U U U²DIM2 TIMES UD²DUG TIMES ANSHE⁴ASH⁵AT LEFT⁴DIN⁴DUN⁴ERIN2⁴GA⁴GI⁴GIR2 GUNU⁴GISH⁴HA",
    "⁴HI⁴IGI GUNU⁴KASKAL⁴KUR⁴KUSHU2⁵PLUS KASKAL⁴LAK-020⁴LAM⁵TIMES KUR⁴LUH PLUS GISH⁴MASH⁴MES",
    "⁴MI⁴NI⁴PI⁴SHE⁴SI GUNU²E2 TIMES KUR⁴PAP²ERIN2 X²ESH2 CROSSING ESH2²EZEN SHESHIG TIMES ASH",
    "⁵HI⁵IGI GUNU⁵LA⁵LAL⁵ME⁵MES⁵SU³TIMES SU²GA2 TIMES BAHAR2⁴DIM GUNU⁴DUG TIMES IGI GUNU",
    "⁶KASKAL⁴EREN⁴GA⁴GAR PLUS DI⁶NE⁴HA PLUS A⁴KUSHU2 PLUS KASKAL⁴LAM⁵TIMES KUR⁴LUH⁴MUSH⁴NE",
    "⁵PLUS E2⁶GI⁴SHIM⁴ZIZ2²GABA ROTATED NINETY DEGREES²GESHTIN TIMES U",
    "²GISH TIMES GISH CROSSING GISH²GU2 TIMES IGI GUNU²GUD PLUS GISH TIMES TAK4²HA TENU GUNU",
    "²HI TIMES ASH OVER HI TIMES ASH²KA TIMES BU⁴KA⁴U U U⁴UR²LAGAB TIMES ZU OVER ZU²LAK-003",
    "²LAK-021²LAK-025²LAK-030²LAK-050²LAK-051²LAK-062²LAK-079 OVER LAK-079 GUNU²LAK-080",
    "²LAK-081 OVER LAK-081²LAK-092²LAK-130²LAK-142²LAK-210²LAK-219²LAK-220²LAK-225²LAK-228",
    "²LAK-238²LAK-265²LAK-266²LAK-343²LAK-347²LAK-348²LAK-383²LAK-384²LAK-390²LAK-441²LAK-449",
    "³TIMES GU⁴IGI⁴PAP PLUS LU3⁶PAP PLUS LU3⁴U2 PLUS BA²LAK-450²LAK-457²LAK-470²LAK-483",
    "²LAK-490²LAK-492²LAK-493²LAK-495²LAK-550²LAK-608²LAK-617³TIMES ASH⁴BAD⁴DUN3 GUNU GUNU",
    "⁴KU3⁴LA⁴TAR⁴TE⁴U2⁴UD⁴URUDA²LAK-636²LAK-648³TIMES DUB⁴GA⁴IGI⁵GUNU⁴NI",
    "⁴PAP PLUS PAP PLUS LU3⁴SHESH PLUS KI⁴UD⁴URUDA²LAK-724²LAK-749²LU2 GUNU TIMES ASH",
    "³TIMES DISH⁴HAL⁴PAP⁵PLUS PAP PLUS LU3⁴TAK4²MI PLUS ZA7²MUSH OVER MUSH TIMES GA⁶KAK",
    "²NINDA2 TIMES DIM GUNU⁴GISH⁴GUL⁴HI⁴KESH2⁴LAK-050⁴MASH⁴PAP PLUS PAP⁴U⁵PLUS U⁴URUDA",
    "²SAG GUNU TIMES HA³TIMES EN⁴SHE AT LEFT⁴TAK4²SHA6 TENU²SHE OVER SHE³PLUS HUB2⁴NAM2⁴SAR",
    "²SHU2 PLUS DUG TIMES NI⁴E2 TIMES AN²SI TIMES TAK4²TAK4 PLUS SAG²TUM TIMES GAN2 TENU",
    "⁴THREE DISH²UR2 INVERTED³TIMES UD²URU TIMES DARA3⁴LAK-668⁴LU3²ZA7²ZU OVER ZU PLUS SAR",
    "²ZU5 TIMES THREE DISH TENU"]⟩,
  ⟨0x12f90, [
    "⁰CYPRO-MINOAN SIGN CM001²CM002²CM004²CM005²CM006²CM007²CM008²CM009²CM010²CM011²CM012",
    "²CM012B²CM013²CM015²CM017²CM019²CM021²CM023²CM024²CM025²CM026²CM027²CM028²CM029²CM030",
    "²CM033²CM034²CM035²CM036²CM037²CM038²CM039²CM040²CM041²CM044²CM046²CM047²CM049²CM050",
    "²CM051²CM052²CM053²CM054²CM055²CM056²CM058²CM059²CM060²CM061²CM062²CM063²CM064²CM066",
    "²CM067²CM068²CM069²CM070²CM071²CM072²CM073²CM074²CM075²CM075B²CM076²CM078²CM079²CM080",
    "²CM081²CM082²CM083²CM084²CM085²CM086²CM087²CM088²CM089²CM090²CM091²CM092²CM094²CM095",
    "²CM096²CM097²CM098²CM099²CM100²CM101²CM102²CM103²CM104²CM105²CM107²CM108²CM109²CM110",
    "²CM112²CM114²CM301²CM302"]⟩,
  ⟨0x13000, [
    "⁰EGYPTIAN HIEROGLYPH A001²A002²A003²A004²A005²A005A²A006²A006A²A006B²A007²A008²A009²A010",
    "²A011²A012²A013²A014²A014A²A015²A016²A017²A017A²A018²A019²A020²A021²A022²A023²A024²A025",
    "²A026²A027²A028²A029²A030²A031²A032²A032A²A033²A034²A035²A036²A037²A038²A039²A040²A040A",
    "²A041²A042²A042A²A043²A043A²A044²A045²A045A²A046²A047²A048²A049²A050²A051²A052²A053²A054",
    "²A055²A056²A057²A058²A059²A060²A061²A062²A063²A064²A065²A066²A067²A068²A069²A070²B001",
    "²B002²B003²B004²B005²B005A²B006²B007²B008²B009²C001²C002²C002A²C002B²C002C²C003²C004",
    "²C005²C006²C007²C008²C009²C010²C010A²C011²C012²C013²C014²C015²C016²C017²C018²C019²C020",
    "²C021²C022²C023²C024²D001²D002²D003²D004²D005²D006²D007²D008²D008A²D009²D010²D011²D012",
    "²D013²D014²D015²D016²D017²D018²D019²D020²D021²D022²D023²D024²D025²D026²D027²D027A²D028",
    "²D029²D030²D031²D031A²D032²D033²D034²D034A²D035²D036²D037²D038²D039²D040²D041²D042²D043",
    "²D044²D045²D046²D046A²D047²D048²D048A²D049²D050²D050A²D050B²D050C²D050D²D050E²D050F",
    "²D050G²D050H²D050I²D051²D052²D052A²D053²D054²D054A²D055²D056²D057²D058²D059²D060²D061",
    "²D062²D063²D064²D065²D066²D067²D067A²D067B²D067C²D067D²D067E²D067F²D067G²D067H²E001²E002",
    "²E003²E004²E005²E006²E007²E008²E008A²E009²E009A²E010²E011²E012²E013²E014²E015²E016²E016A",
    "²E017²E017A²E018²E019²E020²E020A²E021²E022²E023²E024²E025²E026²E027²E028²E028A²E029²E030",
    "²E031²E032²E033²E034²E034A²E036²E037²E038²F001²F001A²F002²F003²F004²F005²F006²F007²F008",
    "²F009²F010²F011²F012²F013²F013A²F014²F015²F016²F017²F018²F019²F020²F021²F021A²F022²F023",
    "²F024²F025²F026²F027²F028²F029²F030²F031²F031A²F032²F033²F034²F035²F036²F037²F037A²F038",
    "²F038A²F039²F040²F041²F042²F043²F044²F045²F045A²F046²F046A²F047²F047A²F048²F049²F050",
    "²F051²F051A²F051B²F051C²F052²F053²G001²G002²G003²G004²G005²G006²G006A²G007²G007A²G007B",
    "²G008²G009²G010²G011²G011A²G012²G013²G014²G015²G016²G017²G018²G019²G020²G020A²G021²G022",
    "²G023²G024²G025²G026²G026A²G027²G028²G029²G030²G031²G032²G033²G034²G035²G036²G036A²G037",
    "²G037A²G038²G039²G040²G041²G042²G043²G043A²G044²G045²G045A²G046²G047²G048²G049²G050²G051",
    "²G052²G053²G054²H001²H002²H003²H004²H005²H006²H006A²H007²H008²I001²I002²I003²I004²I005",
    "²I005A²I006²I007²I008²I009²I009A²I010²I010A²I011²I011A²I012²I013²I014²I015²K001²K002",
    "²K003²K004²K005²K006²K007²K008²L001²L002²L002A²L003²L004²L005²L006²L006A²L007²L008²M001",
    "²M001A²M001B²M002²M003²M003A²M004²M005²M006²M007²M008²M009²M010²M010A²M011²M012²M012A",
    "²M012B²M012C²M012D²M012E²M012F²M012G²M012H²M013²M014²M015²M015A²M016²M016A²M017²M017A",
    "²M018²M019²M020²M021²M022²M022A²M023²M024²M024A²M025²M026²M027²M028²M028A²M029²M030²M031",
    "²M031A²M032²M033²M033A²M033B²M034²M035²M036²M037²M038²M039²M040²M040A²M041²M042²M043",
    "²M044²N001²N002²N003²N004²N005²N006²N007²N008²N009²N010²N011²N012²N013²N014²N015²N016",
    "²N017²N018²N018A²N018B²N019²N020²N021²N022²N023²N024²N025²N025A²N026²N027²N028²N029²N030",
    "²N031²N032²N033²N033A²N034²N034A²N035²N035A²N036²N037²N037A²N038²N039²N040²N041²N042",
    "²NL001²NL002²NL003²NL004²NL005²NL005A²NL006²NL007²NL008²NL009²NL010²NL011²NL012²NL013",
    "²NL014²NL015²NL016²NL017²NL017A²NL018²NL019²NL020²NU001²NU002²NU003²NU004²NU005²NU006",
    "²NU007²NU008²NU009²NU010²NU010A²NU011²NU011A²NU012²NU013²NU014²NU015²NU016²NU017²NU018",
    "²NU018A²NU019²NU020²NU021²NU022²NU022A²O001²O001A²O002²O003²O004²O005²O005A²O006²O006A",
    "²O006B²O006C²O006D²O006E²O006F²O007²O008²O009²O010²O010A²O010B²O010C²O011²O012²O013²O014",
    "²O015²O016²O017²O018²O019²O019A²O020²O020A²O021²O022²O023²O024²O024A²O025²O025A²O026",
    "²O027²O028²O029²O029A²O030²O030A²O031²O032²O033²O033A²O034²O035²O036²O036A²O036B²O036C",
    "²O036D²O037²O038²O039²O040²O041²O042²O043²O044²O045²O046²O047²O048²O049²O050²O050A²O050B",
    "²O051²P001²P001A²P002²P003²P003A²P004²P005²P006²P007²P008²P009²P010²P011²Q001²Q002²Q003",
    "²Q004²Q005²Q006²Q007²R001²R002²R002A²R003²R003A²R003B²R004²R005²R006²R007²R008²R009²R010",
    "²R010A²R011²R012²R013²R014²R015²R016²R016A²R017²R018²R019²R020²R021²R022²R023²R024²R025",
    "²R026²R027²R028²R029²S001²S002²S002A²S003²S004²S005²S006²S006A²S007²S008²S009²S010²S011",
    "²S012²S013²S014²S014A²S014B²S015²S016²S017²S017A²S018²S019²S020²S021²S022²S023²S024²S025",
    "²S026²S026A²S026B²S027²S028²S029²S030²S031²S032²S033²S034²S035²S035A²S036²S037²S038²S039",
    "²S040²S041²S042²S043²S044²S045²S046²T001²T002²T003²T003A²T004²T005²T006²T007²T007A²T008",
    "²T008A²T009²T009A²T010²T011²T011A²T012²T013²T014²T015²T016²T016A²T017²T018²T019²T020",
    "²T021²T022²T023²T024²T025²T026²T027²T028²T029²T030²T031²T032²T032A²T033²T033A²T034²T035",
    "²T036²U001²U002²U003²U004²U005²U006²U006A²U006B²U007²U008²U009²U010²U011²U012²U013²U014",
    "²U015²U016²U017²U018²U019²U020²U021²U022²U023²U023A²U024²U025²U026²U027²U028²U029²U029A",
    "²U030²U031²U032²U032A²U033²U034²U035²U036²U037²U038²U039²U040²U041²U042²V001²V001A²V001B",
    "²V001C²V001D²V001E²V001F²V001G²V001H²V001I²V002²V002A²V003²V004²V005²V006²V007²V007A",
    "²V007B²V008²V009²V010²V011²V011A²V011B²V011C²V012²V012A²V012B²V013²V014²V015²V016²V017",
    "²V018²V019²V020²V020A²V020B²V020C²V020D²V020E²V020F²V020G²V020H²V020I²V020J²V020K²V020L",
    "²V021²V022²V023²V023A²V024²V025²V026²V027²V028²V028A²V029²V029A²V030²V030A²V031²V031A",
    "²V032²V033²V033A²V034²V035²V036²V037²V037A²V038²V039²V040²V040A²W001²W002²W003²W003A",
    "²W004²W005²W006²W007²W008²W009²W009A²W010²W010A²W011²W012²W013²W014²W014A²W015²W016²W017",
    "²W017A²W018²W018A²W019²W020²W021²W022²W023²W024²W024A²W025²X001²X002²X003²X004²X004A",
    "²X004B²X005²X006²X006A²X007²X008²X008A²Y001²Y001A²Y002²Y003²Y004²Y005²Y006²Y007²Y008",
    "²Z001²Z002²Z002A²Z002B²Z002C²Z002D²Z003²Z003A²Z003B²Z004²Z004A²Z005²Z005A²Z006²Z007²Z008",
    "²Z009²Z010²Z011²Z012²Z013²Z014²Z015²Z015A²Z015B²Z015C²Z015D²Z015E²Z015F²Z015G²Z015H",
    "²Z015I²Z016²Z016A²Z016B²Z016C²Z016D²Z016E²Z016F²Z016G²Z016H²AA001²AA002²AA003²AA004",
    "²AA005²AA006²AA007²AA007A²AA007B²AA008²AA009²AA010²AA011²AA012²AA013²AA014²AA015²AA016",
    "²AA017²AA018²AA019²AA020²AA021²AA022²AA023²AA024²AA025²AA026²AA027²AA028²AA029²AA030",
    "²AA031²AA032"]⟩,
  ⟨0x13430, [
    "⁰EGYPTIAN HIEROGLYPH VERTICAL JOINER²HORIZONTAL JOINER²INSERT AT TOP START⁴BOTTOM START",
    "⁴TOP END⁴BOTTOM END²OVERLAY MIDDLE²BEGIN SEGMENT²END SEGMENT"]⟩,
  ⟨0x14400, [
    "⁰ANATOLIAN HIEROGLYPH A001²A002²A003²A004²A005²A006²A007²A008²A009²A010²A010A²A011²A012",
    "²A013²A014²A015²A016²A017²A018²A019²A020²A021²A022²A023²A024²A025²A026²A026A²A027²A028",
    "²A029²A030²A031²A032²A033²A034²A035²A036²A037²A038²A039²A039A²A040²A041²A041A²A042²A043",
    "²A044²A045²A045A²A046²A046A²A046B²A047²A048²A049²A050²A051²A052²A053²A054²A055²A056²A057",
    "²A058²A059²A060²A061²A062²A063²A064²A065²A066²A066A²A066B²A066C²A067²A068²A069²A070²A071",
    "²A072²A073²A074²A075²A076²A077²A078²A079²A080²A081²A082²A083²A084²A085²A086²A087²A088",
    "²A089²A090²A091²A092²A093²A094²A095²A096²A097²A097A²A098²A098A²A099²A100²A100A²A101",
    "²A101A²A102²A102A²A103²A104²A104A²A104B²A104C²A105²A105A²A105B²A106²A107²A107A²A107B",
    "²A107C²A108²A109²A110²A110A²A110B²A111²A112²A113²A114²A115²A115A²A116²A117²A118²A119",
    "²A120²A121²A122²A123²A124²A125²A125A²A126²A127²A128²A129²A130²A131²A132²A133²A134²A135",
    "²A135A²A136²A137²A138²A139²A140²A141²A142²A143²A144²A145²A146²A147²A148²A149²A150²A151",
    "²A152²A153²A154²A155²A156²A157²A158²A159²A160²A161²A162²A163²A164²A165²A166²A167²A168",
    "²A169²A170²A171²A172²A173²A174²A175²A176²A177²A178²A179²A180²A181²A182²A183²A184²A185",
    "²A186²A187²A188²A189²A190²A191²A192²A193²A194²A195²A196²A197²A198²A199²A200²A201²A202",
    "²A202A²A202B²A203²A204²A205²A206²A207²A207A²A208²A209²A209A²A210²A211²A212²A213²A214",
    "²A215²A215A²A216²A216A²A217²A218²A219²A220²A221²A222²A223²A224²A225²A226²A227²A227A²A228",
    "²A229²A230²A231²A232²A233²A234²A235²A236²A237²A238²A239²A240²A241²A242²A243²A244²A245",
    "²A246²A247²A248²A249²A250²A251²A252²A253²A254²A255²A256²A257²A258²A259²A260²A261²A262",
    "²A263²A264²A265²A266²A267²A267A²A268²A269²A270²A271²A272²A273²A274²A275²A276²A277²A278",
    "²A279²A280²A281²A282²A283²A284²A285²A286²A287²A288²A289²A289A²A290²A291²A292²A293²A294",
    "²A294A²A295²A296²A297²A298²A299²A299A²A300²A301²A302²A303²A304²A305²A306²A307²A308²A309",
    "²A309A²A310²A311²A312²A313²A314²A315²A316²A317²A318²A319²A320²A321²A322²A323²A324²A325",
    "²A326²A327²A328²A329²A329A²A330²A331²A332A²A332B²A332C²A333²A334²A335²A336²A336A²A336B",
    "²A336C²A337²A338²A339²A340²A341²A342²A343²A344²A345²A346²A347²A348²A349²A350²A351²A352",
    "²A353²A354²A355²A356²A357²A358²A359²A359A²A360²A361²A362²A363²A364²A364A²A365²A366²A367",
    "²A368²A368A²A369²A370²A371²A371A²A372²A373²A374²A375²A376²A377²A378²A379²A380²A381²A381A",
    "²A382²A383 RA OR RI²A383A²A384²A385²A386²A386A²A387²A388²A389²A390²A391²A392²A393 EIGHT",
    "²A394²A395²A396²A397²A398²A399²A400²A401²A402²A403²A404²A405²A406²A407²A408²A409",
    "²A410 BEGIN LOGOGRAM MARK²A410A END LOGOGRAM MARK²A411²A412²A413²A414²A415²A416²A417",
    "²A418²A419²A420²A421²A422²A423²A424²A425²A426²A427²A428²A429²A430²A431²A432²A433²A434",
    "²A435²A436²A437²A438²A439²A440²A441²A442²A443²A444²A445²A446²A447²A448²A449²A450²A450A",
    "²A451²A452²A453²A454²A455²A456²A457²A457A²A458²A459²A460²A461²A462²A463²A464²A465²A466",
    "²A467²A468²A469²A470²A471²A472²A473²A474²A475²A476²A477²A478²A479²A480²A481²A482²A483",
    "²A484²A485²A486²A487²A488²A489²A490²A491²A492²A493²A494²A495²A496²A497²A501²A502²A503",
    "²A504²A505²A506²A507²A508²A509²A510²A511²A512²A513²A514²A515²A516²A517²A518²A519²A520",
    "²A521²A522²A523²A524²A525²A526²A527²A528²A529²A530"]⟩]

end BlockLang.CharName
