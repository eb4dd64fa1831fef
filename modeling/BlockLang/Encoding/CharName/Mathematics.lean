import BlockLang.Encoding.CharName.Basic

/-! # Names of mathematical and musical symbols -/

namespace BlockLang.CharName

/-- The names of musical and mathematical symbols, of sign writing and of further scripts. -/
def mathematics : List Run := [
  ⟨0x1d000, [
    "⁰BYZANTINE MUSICAL SYMBOL PSILI³DASEIA³PERISPOMENI³OXEIA EKFONITIKON⁴DIPLI",
    "³VAREIA EKFONITIKON⁴DIPLI³KATHISTI³SYRMATIKI³PARAKLITIKI³YPOKRISIS⁴DIPLI³KREMASTI",
    "³APESO EKFONITIKON³EXO EKFONITIKON³TELEIA³KENTIMATA³APOSTROFOS⁴DIPLI³SYNEVMA³THITA",
    "³OLIGON ARCHAION³GORGON ARCHAION³PSILON³CHAMILON³VATHY³ISON ARCHAION³KENTIMA ARCHAION",
    "³KENTIMATA ARCHAION³SAXIMATA³PARICHON³STAVROS APODEXIA³OXEIAI ARCHAION³VAREIAI ARCHAION",
    "³APODERMA ARCHAION³APOTHEMA³KLASMA³REVMA³PIASMA ARCHAION³TINAGMA³ANATRICHISMA³SEISMA",
    "³SYNAGMA ARCHAION⁴META STAVROU³OYRANISMA ARCHAION³THEMA³LEMOI³DYO³TRIA³TESSERA³KRATIMATA",
    "³APESO EXO NEO³FTHORA ARCHAION³IMIFTHORA³TROMIKON ARCHAION³KATAVA TROMIKON³PELASTON",
    "³PSIFISTON³KONTEVMA³CHOREVMA ARCHAION³RAPISMA³PARAKALESMA ARCHAION³PARAKLITIKI ARCHAION",
    "³ICHADIN³NANA³PETASMA³KONTEVMA ALLO³TROMIKON ALLO³STRAGGISMATA³GRONTHISMATA³ISON NEO",
    "³OLIGON NEO³OXEIA NEO³PETASTI³KOUFISMA³PETASTOKOUFISMA³KRATIMOKOUFISMA³PELASTON NEO",
    "³KENTIMATA NEO ANO³KENTIMA NEO ANO³YPSILI³APOSTROFOS NEO³APOSTROFOI SYNDESMOS NEO",
    "³YPORROI³KRATIMOYPORROON³ELAFRON³CHAMILI³MIKRON ISON³VAREIA NEO³PIASMA NEO³PSIFISTON NEO",
    "³OMALON³ANTIKENOMA³LYGISMA³PARAKLITIKI NEO³PARAKALESMA NEO³ETERON PARAKALESMA³KYLISMA",
    "³ANTIKENOKYLISMA³TROMIKON NEO³EKSTREPTON³SYNAGMA NEO³SYRMA³CHOREVMA NEO³EPEGERMA",
    "³SEISMA NEO³XIRON KLASMA³TROMIKOPSIFISTON³PSIFISTOLYGISMA³TROMIKOLYGISMA",
    "³TROMIKOPARAKALESMA³PSIFISTOPARAKALESMA³TROMIKOSYNAGMA³PSIFISTOSYNAGMA³GORGOSYNTHETON",
    "³ARGOSYNTHETON³ETERON ARGOSYNTHETON³OYRANISMA NEO³THEMATISMOS ESO⁴EXO³THEMA APLOUN",
    "³THES KAI APOTHES³KATAVASMA³ENDOFONON³YFEN KATO⁴ANO³STAVROS³KLASMA ANO³DIPLI ARCHAION",
    "³KRATIMA ARCHAION⁴ALLO⁴NEO³APODERMA NEO³APLI³DIPLI³TRIPLI³TETRAPLI³KORONIS",
    "³LEIMMA ENOS CHRONOU⁴DYO CHRONON⁴TRION CHRONON⁴TESSARON CHRONON⁴IMISEOS CHRONOU",
    "³GORGON NEO ANO⁴PARESTIGMENON ARISTERA⁵DEXIA³DIGORGON⁴PARESTIGMENON ARISTERA KATO⁶ANO",
    "⁵DEXIA³TRIGORGON³ARGON³IMIDIARGON³DIARGON³AGOGI POLI ARGI⁴ARGOTERI⁴ARGI⁴METRIA⁴MESI",
    "⁴GORGI⁴GORGOTERI⁴POLI GORGI³MARTYRIA PROTOS ICHOS⁴ALLI PROTOS ICHOS⁴DEYTEROS ICHOS",
    "⁴ALLI DEYTEROS ICHOS⁴TRITOS ICHOS⁴TRIFONIAS⁴TETARTOS ICHOS⁵LEGETOS ICHOS⁴LEGETOS ICHOS",
    "⁴PLAGIOS ICHOS³ISAKIA TELOUS ICHIMATOS³APOSTROFOI TELOUS ICHIMATOS³FANEROSIS TETRAFONIAS",
    "⁴MONOFONIAS⁴DIFONIAS³MARTYRIA VARYS ICHOS⁴PROTOVARYS ICHOS⁴PLAGIOS TETARTOS ICHOS",
    "³GORTHMIKON N APLOUN⁵DIPLOUN³ENARXIS KAI FTHORA VOU³IMIFONON³IMIFTHORON",
    "³FTHORA ARCHAION DEYTEROU ICHOU⁴DIATONIKI PA⁵NANA⁴NAOS ICHOS⁴DIATONIKI DI",
    "⁴SKLIRON DIATONON DI⁴DIATONIKI KE⁵ZO⁵NI KATO⁶ANO⁴MALAKON CHROMA DIFONIAS⁶MONOFONIAS",
    "³FHTORA SKLIRON CHROMA VASIS³FTHORA SKLIRON CHROMA SYNAFI⁴NENANO³CHROA ZYGOS⁴KLITON",
    "⁴SPATHI³FTHORA I YFESIS TETARTIMORION⁴ENARMONIOS ANTIFONIA³YFESIS TRITIMORION",
    "³DIESIS TRITIMORION⁴TETARTIMORION⁴APLI DYO DODEKATA⁴MONOGRAMMOS TESSERA DODEKATA",
    "⁴DIGRAMMOS EX DODEKATA⁴TRIGRAMMOS OKTO DODEKATA³YFESIS APLI DYO DODEKATA",
    "⁴MONOGRAMMOS TESSERA DODEKATA⁴DIGRAMMOS EX DODEKATA⁴TRIGRAMMOS OKTO DODEKATA",
    "³GENIKI DIESIS⁴YFESIS³DIASTOLI APLI MIKRI⁵MEGALI⁴DIPLI⁴THESEOS³SIMANSIS THESEOS⁵DISIMOU",
    "⁵TRISIMOU⁵TETRASIMOU⁴ARSEOS⁵DISIMOU⁵TRISIMOU⁵TETRASIMOU³DIGRAMMA GG³DIFTOGGOS OU³STIGMA",
    "³ARKTIKO PA⁴VOU⁴GA⁴DI⁴KE⁴ZO⁴NI³KENTIMATA NEO MESO³KENTIMA NEO MESO³KENTIMATA NEO KATO",
    "³KENTIMA NEO KATO³KLASMA KATO³GORGON NEO KATO"]⟩,
  ⟨0x1d100, [
    "⁰MUSICAL SYMBOL SINGLE BARLINE²DOUBLE BARLINE²FINAL BARLINE²REVERSE FINAL BARLINE",
    "²DASHED BARLINE²SHORT BARLINE²LEFT REPEAT SIGN²RIGHT REPEAT SIGN²REPEAT DOTS²DAL SEGNO",
    "²DA CAPO²SEGNO²CODA²REPEATED FIGURE-1³FIGURE-2³FIGURE-3²FERMATA³BELOW²BREATH MARK",
    "²CAESURA²BRACE²BRACKET²ONE-LINE STAFF²TWO-LINE STAFF²THREE-LINE STAFF²FOUR-LINE STAFF",
    "²FIVE-LINE STAFF²SIX-LINE STAFF²SIX-STRING FRETBOARD²FOUR-STRING FRETBOARD²G CLEF",
    "⁴OTTAVA ALTA⁵BASSA²C CLEF²F CLEF⁴OTTAVA ALTA⁵BASSA²DRUM CLEF-1³CLEF-2"]⟩,
  ⟨0x1d129, [
    "⁰MUSICAL SYMBOL MULTIPLE MEASURE REST²DOUBLE SHARP³FLAT²FLAT UP³DOWN²NATURAL UP³DOWN",
    "²SHARP UP³DOWN²QUARTER TONE SHARP⁴FLAT²COMMON TIME²CUT TIME²OTTAVA ALTA³BASSA",
    "²QUINDICESIMA ALTA³BASSA²MULTI REST²WHOLE REST²HALF REST²QUARTER REST²EIGHTH REST",
    "²SIXTEENTH REST²THIRTY-SECOND REST²SIXTY-FOURTH REST²ONE HUNDRED TWENTY-EIGHTH REST",
    "²X NOTEHEAD²PLUS NOTEHEAD²CIRCLE X NOTEHEAD²SQUARE NOTEHEAD WHITE⁴BLACK",
    "²TRIANGLE NOTEHEAD UP WHITE⁵BLACK⁴LEFT WHITE⁵BLACK⁴RIGHT WHITE⁵BLACK⁴DOWN WHITE⁵BLACK",
    "⁴UP RIGHT WHITE⁶BLACK²MOON NOTEHEAD WHITE⁴BLACK²TRIANGLE-ROUND NOTEHEAD DOWN WHITE⁵BLACK",
    "²PARENTHESIS NOTEHEAD²VOID NOTEHEAD²NOTEHEAD BLACK²NULL NOTEHEAD²CLUSTER NOTEHEAD WHITE",
    "⁴BLACK²BREVE²WHOLE NOTE²HALF NOTE²QUARTER NOTE²EIGHTH NOTE²SIXTEENTH NOTE",
    "²THIRTY-SECOND NOTE²SIXTY-FOURTH NOTE²ONE HUNDRED TWENTY-EIGHTH NOTE²COMBINING STEM",
    "³SPRECHGESANG STEM³TREMOLO-1³TREMOLO-2³TREMOLO-3²FINGERED TREMOLO-1³TREMOLO-2³TREMOLO-3",
    "²COMBINING AUGMENTATION DOT³FLAG-1³FLAG-2³FLAG-3³FLAG-4³FLAG-5²BEGIN BEAM²END BEAM",
    "²BEGIN TIE²END TIE²BEGIN SLUR²END SLUR²BEGIN PHRASE²END PHRASE²COMBINING ACCENT³STACCATO",
    "³TENUTO³STACCATISSIMO³MARCATO³MARCATO-STACCATO³ACCENT-STACCATO³LOURE²ARPEGGIATO UP³DOWN",
    "²COMBINING DOIT³RIP³FLIP³SMEAR³BEND³DOUBLE TONGUE³TRIPLE TONGUE²RINFORZANDO²SUBITO²Z",
    "²PIANO²MEZZO²FORTE²CRESCENDO²DECRESCENDO²GRACE NOTE SLASH⁴NO SLASH²TR²TURN²INVERTED TURN",
    "²TURN SLASH³UP²ORNAMENT STROKE-1³STROKE-2³STROKE-3³STROKE-4³STROKE-5³STROKE-6³STROKE-7",
    "³STROKE-8³STROKE-9³STROKE-10³STROKE-11²HAUPTSTIMME²NEBENSTIMME²END OF STIMME",
    "²DEGREE SLASH²COMBINING DOWN BOW³UP BOW³HARMONIC³SNAP PIZZICATO²PEDAL MARK³UP MARK",
    "²HALF PEDAL MARK²GLISSANDO UP³DOWN²WITH FINGERNAILS²DAMP³ALL²MAXIMA²LONGA²BREVIS",
    "²SEMIBREVIS WHITE³BLACK²MINIMA³BLACK²SEMIMINIMA WHITE³BLACK²FUSA WHITE³BLACK",
    "²LONGA PERFECTA REST³IMPERFECTA REST²BREVIS REST²SEMIBREVIS REST²MINIMA REST",
    "²SEMIMINIMA REST²TEMPUS PERFECTUM CUM PROLATIONE PERFECTA⁶IMPERFECTA",
    "⁶PERFECTA DIMINUTION-1³IMPERFECTUM CUM PROLATIONE PERFECTA⁶IMPERFECTA⁷DIMINUTION-1",
    "⁷DIMINUTION-2⁷DIMINUTION-3²CROIX²GREGORIAN C CLEF³F CLEF²SQUARE B²VIRGA²PODATUS²CLIVIS",
    "²SCANDICUS²CLIMACUS²TORCULUS²PORRECTUS³FLEXUS²SCANDICUS FLEXUS²TORCULUS RESUPINUS",
    "²PES SUBPUNCTIS²KIEVAN C CLEF³END OF PIECE³FINAL NOTE³RECITATIVE MARK³WHOLE NOTE",
    "³HALF NOTE³QUARTER NOTE STEM DOWN⁶UP³EIGHTH NOTE STEM DOWN⁶UP³FLAT SIGN²SORI²KORON"]⟩,
  ⟨0x1d200, [
    "⁰GREEK VOCAL NOTATION SYMBOL-1³SYMBOL-2³SYMBOL-3³SYMBOL-4³SYMBOL-5³SYMBOL-6³SYMBOL-7",
    "³SYMBOL-8³SYMBOL-9³SYMBOL-10³SYMBOL-11³SYMBOL-12³SYMBOL-13³SYMBOL-14³SYMBOL-15³SYMBOL-16",
    "³SYMBOL-17³SYMBOL-18³SYMBOL-19³SYMBOL-20³SYMBOL-21³SYMBOL-22³SYMBOL-23³SYMBOL-24",
    "³SYMBOL-50³SYMBOL-51³SYMBOL-52³SYMBOL-53³SYMBOL-54¹INSTRUMENTAL NOTATION SYMBOL-1",
    "³SYMBOL-2³SYMBOL-4³SYMBOL-5³SYMBOL-7³SYMBOL-8³SYMBOL-11³SYMBOL-12³SYMBOL-13³SYMBOL-14",
    "³SYMBOL-17³SYMBOL-18³SYMBOL-19³SYMBOL-23³SYMBOL-24³SYMBOL-25³SYMBOL-26³SYMBOL-27",
    "³SYMBOL-29³SYMBOL-30³SYMBOL-32³SYMBOL-36³SYMBOL-37³SYMBOL-38³SYMBOL-39³SYMBOL-40",
    "³SYMBOL-42³SYMBOL-43³SYMBOL-45³SYMBOL-47³SYMBOL-48³SYMBOL-49³SYMBOL-50³SYMBOL-51",
    "³SYMBOL-52³SYMBOL-53³SYMBOL-54⁰COMBINING GREEK MUSICAL TRISEME³TETRASEME³PENTASEME",
    "⁰GREEK MUSICAL LEIMMA"]⟩,
  ⟨0x1d2e0, [
    "⁰MAYAN NUMERAL ZERO²ONE²TWO²THREE²FOUR²FIVE²SIX²SEVEN²EIGHT²NINE²TEN²ELEVEN²TWELVE",
    "²THIRTEEN²FOURTEEN²FIFTEEN²SIXTEEN²SEVENTEEN²EIGHTEEN²NINETEEN"]⟩,
  ⟨0x1d300, [
    "⁰MONOGRAM FOR EARTH⁰DIGRAM FOR HEAVENLY EARTH²HUMAN EARTH²EARTHLY HEAVEN³HUMAN²EARTH",
    "⁰TETRAGRAM FOR CENTRE²FULL CIRCLE²MIRED²BARRIER²KEEPING SMALL²CONTRARIETY²ASCENT",
    "²OPPOSITION²BRANCHING OUT²DEFECTIVENESS OR DISTORTION²DIVERGENCE²YOUTHFULNESS²INCREASE",
    "²PENETRATION²REACH²CONTACT²HOLDING BACK²WAITING²FOLLOWING²ADVANCE²RELEASE²RESISTANCE",
    "²EASE²JOY²CONTENTION²ENDEAVOUR²DUTIES²CHANGE²DECISIVENESS²BOLD RESOLUTION²PACKING²LEGION",
    "²CLOSENESS²KINSHIP²GATHERING²STRENGTH²PURITY²FULLNESS²RESIDENCE²LAW OR MODEL²RESPONSE",
    "²GOING TO MEET²ENCOUNTERS²STOVE²GREATNESS²ENLARGEMENT²PATTERN²RITUAL²FLIGHT",
    "²VASTNESS OR WASTING²CONSTANCY²MEASURE²ETERNITY²UNITY²DIMINISHMENT²CLOSED MOUTH",
    "²GUARDEDNESS²GATHERING IN²MASSING²ACCUMULATION²EMBELLISHMENT²DOUBT²WATCH²SINKING²INNER",
    "²DEPARTURE²DARKENING²DIMMING²EXHAUSTION²SEVERANCE²STOPPAGE²HARDNESS²COMPLETION²CLOSURE",
    "²FAILURE²AGGRAVATION²COMPLIANCE²ON THE VERGE²DIFFICULTIES²LABOURING²FOSTERING"]⟩,
  ⟨0x1d360, [
    "⁰COUNTING ROD UNIT DIGIT ONE⁴TWO⁴THREE⁴FOUR⁴FIVE⁴SIX⁴SEVEN⁴EIGHT⁴NINE²TENS DIGIT ONE⁴TWO",
    "⁴THREE⁴FOUR⁴FIVE⁴SIX⁴SEVEN⁴EIGHT⁴NINE⁰IDEOGRAPHIC TALLY MARK ONE³TWO³THREE³FOUR³FIVE",
    "⁰TALLY MARK ONE²FIVE"]⟩,
  ⟨0x1d400, [
    "⁰MATHEMATICAL BOLD CAPITAL A³B³C³D³E³F³G³H³I³J³K³L³M³N³O³P³Q³R³S³T³U³V³W³X³Y³Z²SMALL A³B",
    "³C³D³E³F³G³H³I³J³K³L³M³N³O³P³Q³R³S³T³U³V³W³X³Y³Z¹ITALIC CAPITAL A³B³C³D³E³F³G³H³I³J³K³L",
    "³M³N³O³P³Q³R³S³T³U³V³W³X³Y³Z²SMALL A³B³C³D³E³F³G"]⟩,
  ⟨0x1d456, [
    "⁰MATHEMATICAL ITALIC SMALL I³J³K³L³M³N³O³P³Q³R³S³T³U³V³W³X³Y³Z¹BOLD ITALIC CAPITAL A⁴B⁴C",
    "⁴D⁴E⁴F⁴G⁴H⁴I⁴J⁴K⁴L⁴M⁴N⁴O⁴P⁴Q⁴R⁴S⁴T⁴U⁴V⁴W⁴X⁴Y⁴Z³SMALL A⁴B⁴C⁴D⁴E⁴F⁴G⁴H⁴I⁴J⁴K⁴L⁴M⁴N⁴O⁴P⁴Q⁴R",
    "⁴S⁴T⁴U⁴V⁴W⁴X⁴Y⁴Z¹SCRIPT CAPITAL A"]⟩,
  ⟨0x1d49e, ["⁰MATHEMATICAL SCRIPT CAPITAL C³D"]⟩,
  ⟨0x1d4a2, ["⁰MATHEMATICAL SCRIPT CAPITAL G"]⟩,
  ⟨0x1d4a5, ["⁰MATHEMATICAL SCRIPT CAPITAL J³K"]⟩,
  ⟨0x1d4a9, ["⁰MATHEMATICAL SCRIPT CAPITAL N³O³P³Q"]⟩,
  ⟨0x1d4ae, ["⁰MATHEMATICAL SCRIPT CAPITAL S³T³U³V³W³X³Y³Z²SMALL A³B³C³D"]⟩,
  ⟨0x1d4bb, ["⁰MATHEMATICAL SCRIPT SMALL F"]⟩,
  ⟨0x1d4bd, ["⁰MATHEMATICAL SCRIPT SMALL H³I³J³K³L³M³N"]⟩,
  ⟨0x1d4c5, [
    "⁰MATHEMATICAL SCRIPT SMALL P³Q³R³S³T³U³V³W³X³Y³Z¹BOLD SCRIPT CAPITAL A⁴B⁴C⁴D⁴E⁴F⁴G⁴H⁴I⁴J",
    "⁴K⁴L⁴M⁴N⁴O⁴P⁴Q⁴R⁴S⁴T⁴U⁴V⁴W⁴X⁴Y⁴Z³SMALL A⁴B⁴C⁴D⁴E⁴F⁴G⁴H⁴I⁴J⁴K⁴L⁴M⁴N⁴O⁴P⁴Q⁴R⁴S⁴T⁴U⁴V⁴W⁴X⁴Y",
    "⁴Z¹FRAKTUR CAPITAL A³B"]⟩,
  ⟨0x1d507, ["⁰MATHEMATICAL FRAKTUR CAPITAL D³E³F³G"]⟩,
  ⟨0x1d50d, ["⁰MATHEMATICAL FRAKTUR CAPITAL J³K³L³M³N³O³P³Q"]⟩,
  ⟨0x1d516, ["⁰MATHEMATICAL FRAKTUR CAPITAL S³T³U³V³W³X³Y"]⟩,
  ⟨0x1d51e, [
    "⁰MATHEMATICAL FRAKTUR SMALL A³B³C³D³E³F³G³H³I³J³K³L³M³N³O³P³Q³R³S³T³U³V³W³X³Y³Z",
    "¹DOUBLE-STRUCK CAPITAL A³B"]⟩,
  ⟨0x1d53b, ["⁰MATHEMATICAL DOUBLE-STRUCK CAPITAL D³E³F³G"]⟩,
  ⟨0x1d540, ["⁰MATHEMATICAL DOUBLE-STRUCK CAPITAL I³J³K³L³M"]⟩,
  ⟨0x1d546, ["⁰MATHEMATICAL DOUBLE-STRUCK CAPITAL O"]⟩,
  ⟨0x1d54a, ["⁰MATHEMATICAL DOUBLE-STRUCK CAPITAL S³T³U³V³W³X³Y"]⟩,
  ⟨0x1d552, [
    "⁰MATHEMATICAL DOUBLE-STRUCK SMALL A³B³C³D³E³F³G³H³I³J³K³L³M³N³O³P³Q³R³S³T³U³V³W³X³Y³Z",
    "¹BOLD FRAKTUR CAPITAL A⁴B⁴C⁴D⁴E⁴F⁴G⁴H⁴I⁴J⁴K⁴L⁴M⁴N⁴O⁴P⁴Q⁴R⁴S⁴T⁴U⁴V⁴W⁴X⁴Y⁴Z³SMALL A⁴B⁴C⁴D",
    "⁴E⁴F⁴G⁴H⁴I⁴J⁴K⁴L⁴M⁴N⁴O⁴P⁴Q⁴R⁴S⁴T⁴U⁴V⁴W⁴X⁴Y⁴Z¹SANS-SERIF CAPITAL A³B³C³D³E³F³G³H³I³J³K³L",
    "³M³N³O³P³Q³R³S³T³U³V³W³X³Y³Z²SMALL A³B³C³D³E³F³G³H³I³J³K³L³M³N³O³P³Q³R³S³T³U³V³W³X³Y³Z",
    "²BOLD CAPITAL A⁴B⁴C⁴D⁴E⁴F⁴G⁴H⁴I⁴J⁴K⁴L⁴M⁴N⁴O⁴P⁴Q⁴R⁴S⁴T⁴U⁴V⁴W⁴X⁴Y⁴Z³SMALL A⁴B⁴C⁴D⁴E⁴F⁴G⁴H",
    "⁴I⁴J⁴K⁴L⁴M⁴N⁴O⁴P⁴Q⁴R⁴S⁴T⁴U⁴V⁴W⁴X⁴Y⁴Z²ITALIC CAPITAL A⁴B⁴C⁴D⁴E⁴F⁴G⁴H⁴I⁴J⁴K⁴L⁴M⁴N⁴O⁴P⁴Q⁴R",
    "⁴S⁴T⁴U⁴V⁴W⁴X⁴Y⁴Z³SMALL A⁴B⁴C⁴D⁴E⁴F⁴G⁴H⁴I⁴J⁴K⁴L⁴M⁴N⁴O⁴P⁴Q⁴R⁴S⁴T⁴U⁴V⁴W⁴X⁴Y⁴Z",
    "²BOLD ITALIC CAPITAL A⁵B⁵C⁵D⁵E⁵F⁵G⁵H⁵I⁵J⁵K⁵L⁵M⁵N⁵O⁵P⁵Q⁵R⁵S⁵T⁵U⁵V⁵W⁵X⁵Y⁵Z⁴SMALL A⁵B⁵C⁵D⁵E",
    "⁵F⁵G⁵H⁵I⁵J⁵K⁵L⁵M⁵N⁵O⁵P⁵Q⁵R⁵S⁵T⁵U⁵V⁵W⁵X⁵Y⁵Z¹MONOSPACE CAPITAL A³B³C³D³E³F³G³H³I³J³K³L³M³N",
    "³O³P³Q³R³S³T³U³V³W³X³Y³Z²SMALL A³B³C³D³E³F³G³H³I³J³K³L³M³N³O³P³Q³R³S³T³U³V³W³X³Y³Z",
    "¹ITALIC SMALL DOTLESS I⁴J"]⟩,
  ⟨0x1d6a8, [
    "⁰MATHEMATICAL BOLD CAPITAL ALPHA³BETA³GAMMA³DELTA³EPSILON³ZETA³ETA³THETA³IOTA³KAPPA",
    "³LAMDA³MU³NU³XI³OMICRON³PI³RHO³THETA SYMBOL³SIGMA³TAU³UPSILON³PHI³CHI³PSI³OMEGA²NABLA",
    "²SMALL ALPHA³BETA³GAMMA³DELTA³EPSILON³ZETA³ETA³THETA³IOTA³KAPPA³LAMDA³MU³NU³XI³OMICRON",
    "³PI³RHO³FINAL SIGMA³SIGMA³TAU³UPSILON³PHI³CHI³PSI³OMEGA²PARTIAL DIFFERENTIAL",
    "²EPSILON SYMBOL²THETA SYMBOL²KAPPA SYMBOL²PHI SYMBOL²RHO SYMBOL²PI SYMBOL",
    "¹ITALIC CAPITAL ALPHA³BETA³GAMMA³DELTA³EPSILON³ZETA³ETA³THETA³IOTA³KAPPA³LAMDA³MU³NU³XI",
    "³OMICRON³PI³RHO³THETA SYMBOL³SIGMA³TAU³UPSILON³PHI³CHI³PSI³OMEGA²NABLA²SMALL ALPHA³BETA",
    "³GAMMA³DELTA³EPSILON³ZETA³ETA³THETA³IOTA³KAPPA³LAMDA³MU³NU³XI³OMICRON³PI³RHO³FINAL SIGMA",
    "³SIGMA³TAU³UPSILON³PHI³CHI³PSI³OMEGA²PARTIAL DIFFERENTIAL²EPSILON SYMBOL²THETA SYMBOL",
    "²KAPPA SYMBOL²PHI SYMBOL²RHO SYMBOL²PI SYMBOL¹BOLD ITALIC CAPITAL ALPHA⁴BETA⁴GAMMA⁴DELTA",
    "⁴EPSILON⁴ZETA⁴ETA⁴THETA⁴IOTA⁴KAPPA⁴LAMDA⁴MU⁴NU⁴XI⁴OMICRON⁴PI⁴RHO⁴THETA SYMBOL⁴SIGMA⁴TAU",
    "⁴UPSILON⁴PHI⁴CHI⁴PSI⁴OMEGA³NABLA³SMALL ALPHA⁴BETA⁴GAMMA⁴DELTA⁴EPSILON⁴ZETA⁴ETA⁴THETA",
    "⁴IOTA⁴KAPPA⁴LAMDA⁴MU⁴NU⁴XI⁴OMICRON⁴PI⁴RHO⁴FINAL SIGMA⁴SIGMA⁴TAU⁴UPSILON⁴PHI⁴CHI⁴PSI",
    "⁴OMEGA³PARTIAL DIFFERENTIAL³EPSILON SYMBOL³THETA SYMBOL³KAPPA SYMBOL³PHI SYMBOL",
    "³RHO SYMBOL³PI SYMBOL¹SANS-SERIF BOLD CAPITAL ALPHA⁴BETA⁴GAMMA⁴DELTA⁴EPSILON⁴ZETA⁴ETA",
    "⁴THETA⁴IOTA⁴KAPPA⁴LAMDA⁴MU⁴NU⁴XI⁴OMICRON⁴PI⁴RHO⁴THETA SYMBOL⁴SIGMA⁴TAU⁴UPSILON⁴PHI⁴CHI",
    "⁴PSI⁴OMEGA³NABLA³SMALL ALPHA⁴BETA⁴GAMMA⁴DELTA⁴EPSILON⁴ZETA⁴ETA⁴THETA⁴IOTA⁴KAPPA⁴LAMDA⁴MU",
    "⁴NU⁴XI⁴OMICRON⁴PI⁴RHO⁴FINAL SIGMA⁴SIGMA⁴TAU⁴UPSILON⁴PHI⁴CHI⁴PSI⁴OMEGA",
    "³PARTIAL DIFFERENTIAL³EPSILON SYMBOL³THETA SYMBOL³KAPPA SYMBOL³PHI SYMBOL³RHO SYMBOL",
    "³PI SYMBOL³ITALIC CAPITAL ALPHA⁵BETA⁵GAMMA⁵DELTA⁵EPSILON⁵ZETA⁵ETA⁵THETA⁵IOTA⁵KAPPA⁵LAMDA",
    "⁵MU⁵NU⁵XI⁵OMICRON⁵PI⁵RHO⁵THETA SYMBOL⁵SIGMA⁵TAU⁵UPSILON⁵PHI⁵CHI⁵PSI⁵OMEGA⁴NABLA",
    "⁴SMALL ALPHA⁵BETA⁵GAMMA⁵DELTA⁵EPSILON⁵ZETA⁵ETA⁵THETA⁵IOTA⁵KAPPA⁵LAMDA⁵MU⁵NU⁵XI⁵OMICRON",
    "⁵PI⁵RHO⁵FINAL SIGMA⁵SIGMA⁵TAU⁵UPSILON⁵PHI⁵CHI⁵PSI⁵OMEGA⁴PARTIAL DIFFERENTIAL",
    "⁴EPSILON SYMBOL⁴THETA SYMBOL⁴KAPPA SYMBOL⁴PHI SYMBOL⁴RHO SYMBOL⁴PI SYMBOL",
    "¹BOLD CAPITAL DIGAMMA²SMALL DIGAMMA"]⟩,
  ⟨0x1d7ce, [
    "⁰MATHEMATICAL BOLD DIGIT ZERO³ONE³TWO³THREE³FOUR³FIVE³SIX³SEVEN³EIGHT³NINE",
    "¹DOUBLE-STRUCK DIGIT ZERO³ONE³TWO³THREE³FOUR³FIVE³SIX³SEVEN³EIGHT³NINE",
    "¹SANS-SERIF DIGIT ZERO³ONE³TWO³THREE³FOUR³FIVE³SIX³SEVEN³EIGHT³NINE²BOLD DIGIT ZERO⁴ONE",
    "⁴TWO⁴THREE⁴FOUR⁴FIVE⁴SIX⁴SEVEN⁴EIGHT⁴NINE¹MONOSPACE DIGIT ZERO³ONE³TWO³THREE³FOUR³FIVE",
    "³SIX³SEVEN³EIGHT³NINE⁰SIGNWRITING HAND-FIST INDEX¹HAND-CIRCLE INDEX¹HAND-CUP INDEX",
    "¹HAND-OVAL INDEX¹HAND-HINGE INDEX¹HAND-ANGLE INDEX¹HAND-FIST INDEX BENT",
    "¹HAND-CIRCLE INDEX BENT¹HAND-FIST THUMB UNDER INDEX BENT²INDEX RAISED KNUCKLE³CUPPED",
    "³HINGED⁴LOW¹HAND-CIRCLE INDEX HINGE¹HAND-FIST INDEX MIDDLE¹HAND-CIRCLE INDEX MIDDLE",
    "¹HAND-FIST INDEX MIDDLE BENT⁴RAISED KNUCKLES⁴HINGED³UP MIDDLE HINGED³HINGED MIDDLE UP",
    "³MIDDLE CONJOINED⁵INDEX BENT⁵MIDDLE BENT⁵CUPPED⁵HINGED⁴CROSSED",
    "¹HAND-CIRCLE INDEX MIDDLE CROSSED¹HAND-FIST MIDDLE BENT OVER INDEX",
    "²INDEX BENT OVER MIDDLE³MIDDLE THUMB¹HAND-CIRCLE INDEX MIDDLE THUMB",
    "¹HAND-FIST INDEX MIDDLE STRAIGHT THUMB BENT⁴BENT THUMB STRAIGHT⁴THUMB BENT",
    "⁴HINGED SPREAD THUMB SIDE³UP MIDDLE HINGED THUMB SIDE⁷CONJOINED",
    "³HINGED MIDDLE UP THUMB SIDE³MIDDLE UP SPREAD THUMB FORWARD⁴THUMB CUPPED⁵CIRCLED⁵HOOKED",
    "⁵HINGED²THUMB BETWEEN INDEX MIDDLE STRAIGHT²INDEX MIDDLE CONJOINED THUMB SIDE⁷CONJOINED",
    "⁷BENT²MIDDLE THUMB HOOKED INDEX UP²INDEX THUMB HOOKED MIDDLE UP",
    "³MIDDLE CONJOINED HINGED THUMB SIDE⁴CROSSED THUMB SIDE⁴CONJOINED THUMB FORWARD",
    "⁵CUPPED THUMB FORWARD²MIDDLE THUMB CUPPED INDEX UP²INDEX THUMB CUPPED MIDDLE UP",
    "²MIDDLE THUMB CIRCLED INDEX UP⁶HINGED²INDEX THUMB ANGLED OUT MIDDLE UP⁵IN MIDDLE UP",
    "⁴CIRCLED MIDDLE UP³MIDDLE THUMB CONJOINED HINGED⁵ANGLED OUT⁵ANGLED",
    "²MIDDLE THUMB ANGLED OUT INDEX UP⁷CROSSED⁵INDEX UP²INDEX THUMB HOOKED MIDDLE HINGED",
    "¹HAND-FLAT FOUR FINGERS⁴BENT⁴HINGED⁴CONJOINED⁵SPLIT¹HAND-CLAW FOUR FINGERS CONJOINED",
    "¹HAND-FIST FOUR FINGERS CONJOINED BENT¹HAND-HINGE FOUR FINGERS CONJOINED",
    "¹HAND-FLAT FIVE FINGERS SPREAD²HEEL FIVE FINGERS SPREAD²FIVE FINGERS SPREAD FOUR BENT",
    "²HEEL FIVE FINGERS SPREAD FOUR BENT²FIVE FINGERS SPREAD BENT",
    "²HEEL FIVE FINGERS SPREAD BENT²FIVE FINGERS SPREAD THUMB FORWARD",
    "¹HAND-CUP FIVE FINGERS SPREAD⁵OPEN¹HAND-HINGE FIVE FINGERS SPREAD OPEN",
    "¹HAND-OVAL FIVE FINGERS SPREAD¹HAND-FLAT FIVE FINGERS SPREAD HINGED⁶THUMB SIDE⁶NO THUMB",
    "¹HAND-FLAT²BETWEEN PALM FACINGS²HEEL²THUMB SIDE²HEEL THUMB SIDE²THUMB BENT³FORWARD",
    "²SPLIT INDEX THUMB SIDE³CENTRE⁴THUMB SIDE⁶BENT³LITTLE¹HAND-CLAW²THUMB SIDE²NO THUMB",
    "²THUMB FORWARD¹HAND-HOOK CURLICUE¹HAND-HOOK¹HAND-CUP OPEN¹HAND-CUP²OPEN THUMB SIDE",
    "²THUMB SIDE²OPEN NO THUMB²NO THUMB²OPEN THUMB FORWARD²THUMB FORWARD¹HAND-CURLICUE OPEN",
    "¹HAND-CURLICUE¹HAND-CIRCLE¹HAND-OVAL²THUMB SIDE²NO THUMB²THUMB FORWARD¹HAND-HINGE OPEN",
    "³THUMB FORWARD¹HAND-HINGE²SMALL²OPEN THUMB SIDE²THUMB SIDE²OPEN NO THUMB²NO THUMB",
    "²THUMB SIDE TOUCHING INDEX³BETWEEN MIDDLE RING¹HAND-ANGLE¹HAND-FIST INDEX MIDDLE RING",
    "¹HAND-CIRCLE INDEX MIDDLE RING¹HAND-HINGE INDEX MIDDLE RING¹HAND-ANGLE INDEX MIDDLE RING",
    "¹HAND-HINGE LITTLE¹HAND-FIST INDEX MIDDLE RING BENT⁵CONJOINED",
    "¹HAND-HINGE INDEX MIDDLE RING CONJOINED¹HAND-FIST LITTLE DOWN⁴RIPPLE STRAIGHT⁵CURVED",
    "⁴OTHERS CIRCLED³UP²THUMB UNDER LITTLE UP¹HAND-CIRCLE LITTLE UP¹HAND-OVAL LITTLE UP",
    "¹HAND-ANGLE LITTLE UP¹HAND-FIST LITTLE RAISED KNUCKLE³BENT³TOUCHES THUMB³THUMB",
    "¹HAND-HINGE LITTLE THUMB¹HAND-FIST LITTLE INDEX THUMB¹HAND-HINGE LITTLE INDEX THUMB",
    "¹HAND-ANGLE LITTLE INDEX THUMB INDEX THUMB OUT⁶THUMB¹HAND-FIST LITTLE INDEX",
    "¹HAND-CIRCLE LITTLE INDEX¹HAND-HINGE LITTLE INDEX¹HAND-ANGLE LITTLE INDEX",
    "¹HAND-FIST INDEX MIDDLE LITTLE¹HAND-CIRCLE INDEX MIDDLE LITTLE",
    "¹HAND-HINGE INDEX MIDDLE LITTLE²RING¹HAND-ANGLE INDEX MIDDLE LITTLE",
    "¹HAND-FIST INDEX MIDDLE CROSS LITTLE¹HAND-CIRCLE INDEX MIDDLE CROSS LITTLE",
    "¹HAND-FIST RING DOWN¹HAND-HINGE RING DOWN INDEX THUMB HOOK MIDDLE",
    "¹HAND-ANGLE RING DOWN MIDDLE THUMB INDEX CROSS¹HAND-FIST RING UP³RAISED KNUCKLE³LITTLE",
    "¹HAND-CIRCLE RING LITTLE¹HAND-OVAL RING LITTLE¹HAND-ANGLE RING LITTLE",
    "¹HAND-FIST RING MIDDLE⁴CONJOINED⁴RAISED KNUCKLES³INDEX³THUMB¹HAND-HOOK RING THUMB",
    "¹HAND-FIST INDEX RING LITTLE¹HAND-CIRCLE INDEX RING LITTLE",
    "¹HAND-CURLICUE INDEX RING LITTLE ON¹HAND-HOOK INDEX RING LITTLE OUT⁵IN⁵UNDER",
    "¹HAND-CUP INDEX RING LITTLE¹HAND-HINGE INDEX RING LITTLE",
    "¹HAND-ANGLE INDEX RING LITTLE OUT⁴LITTLE¹HAND-FIST MIDDLE DOWN¹HAND-HINGE MIDDLE",
    "¹HAND-FIST MIDDLE UP¹HAND-CIRCLE MIDDLE UP¹HAND-FIST MIDDLE RAISED KNUCKLE³UP THUMB SIDE",
    "¹HAND-HOOK MIDDLE THUMB¹HAND-FIST MIDDLE THUMB LITTLE³LITTLE³RING LITTLE",
    "¹HAND-CIRCLE MIDDLE RING LITTLE¹HAND-CURLICUE MIDDLE RING LITTLE ON",
    "¹HAND-CUP MIDDLE RING LITTLE¹HAND-HINGE MIDDLE RING LITTLE",
    "¹HAND-ANGLE MIDDLE RING LITTLE OUT⁵IN⁴LITTLE¹HAND-CIRCLE MIDDLE RING LITTLE BENT",
    "¹HAND-CLAW MIDDLE RING LITTLE CONJOINED⁶SIDE¹HAND-HOOK MIDDLE RING LITTLE CONJOINED OUT",
    "⁶IN⁵CONJOINED¹HAND-HINGE INDEX HINGED¹HAND-FIST INDEX THUMB SIDE",
    "¹HAND-HINGE INDEX THUMB SIDE¹HAND-FIST INDEX THUMB SIDE THUMB DIAGONAL⁶CONJOINED⁶BENT",
    "⁵INDEX BENT⁵BOTH BENT⁵INDEX HINGE⁴FORWARD INDEX STRAIGHT⁶BENT⁴HOOK⁴CURLICUE",
    "⁴CURVE THUMB INSIDE¹HAND-CLAW INDEX THUMB CURVE THUMB INSIDE",
    "¹HAND-FIST INDEX THUMB CURVE THUMB UNDER⁴CIRCLE¹HAND-CUP INDEX THUMB⁴OPEN",
    "¹HAND-HINGE INDEX THUMB OPEN⁴LARGE³THUMB⁴SMALL¹HAND-ANGLE INDEX THUMB OUT⁴IN³THUMB",
    "¹HAND-FIST THUMB³HEEL³SIDE DIAGONAL⁴CONJOINED⁴BENT³FORWARD³BETWEEN INDEX MIDDLE",
    "⁴MIDDLE RING⁴RING LITTLE³UNDER TWO FINGERS³OVER TWO FINGERS³UNDER THREE FINGERS",
    "⁴FOUR FINGERS³OVER FOUR RAISED KNUCKLES¹HAND-FIST²HEEL¹TOUCH SINGLE²MULTIPLE²BETWEEN",
    "¹GRASP SINGLE²MULTIPLE²BETWEEN¹STRIKE SINGLE²MULTIPLE²BETWEEN¹BRUSH SINGLE²MULTIPLE",
    "²BETWEEN¹RUB SINGLE²MULTIPLE²BETWEEN¹SURFACE SYMBOLS²BETWEEN¹SQUEEZE LARGE SINGLE",
    "²SMALL SINGLE²LARGE MULTIPLE²SMALL MULTIPLE²SEQUENTIAL¹FLICK LARGE SINGLE²SMALL SINGLE",
    "²LARGE MULTIPLE²SMALL MULTIPLE²SEQUENTIAL¹SQUEEZE FLICK ALTERNATING",
    "¹MOVEMENT-HINGE UP DOWN LARGE⁴SMALL³SEQUENTIAL²DOWN SEQUENTIAL²UP DOWN ALTERNATING LARGE",
    "⁵SMALL²SIDE TO SIDE SCISSORS¹MOVEMENT-WALLPLANE FINGER CONTACT",
    "¹MOVEMENT-FLOORPLANE FINGER CONTACT¹MOVEMENT-WALLPLANE SINGLE STRAIGHT SMALL⁴MEDIUM",
    "⁴LARGE⁴LARGEST³WRIST FLEX²DOUBLE STRAIGHT³WRIST FLEX³ALTERNATING⁴WRIST FLEX²CROSS",
    "²TRIPLE STRAIGHT MOVEMENT³WRIST FLEX³ALTERNATING⁴WRIST FLEX²BEND SMALL³MEDIUM³LARGE",
    "²CORNER SMALL³MEDIUM³LARGE³ROTATION²CHECK SMALL³MEDIUM³LARGE²BOX SMALL³MEDIUM³LARGE",
    "²ZIGZAG SMALL³MEDIUM³LARGE²PEAKS SMALL³MEDIUM³LARGE",
    "¹TRAVEL-WALLPLANE ROTATION-WALLPLANE SINGLE³DOUBLE³ALTERNATING",
    "²ROTATION-FLOORPLANE SINGLE³DOUBLE³ALTERNATING²SHAKING²ARM SPIRAL SINGLE⁴DOUBLE⁴TRIPLE",
    "¹MOVEMENT-DIAGONAL AWAY SMALL³MEDIUM³LARGE³LARGEST²TOWARDS SMALL³MEDIUM³LARGE³LARGEST",
    "²BETWEEN AWAY SMALL⁴MEDIUM⁴LARGE⁴LARGEST³TOWARDS SMALL⁴MEDIUM⁴LARGE⁴LARGEST",
    "¹MOVEMENT-FLOORPLANE SINGLE STRAIGHT SMALL⁴MEDIUM⁴LARGE⁴LARGEST³WRIST FLEX",
    "²DOUBLE STRAIGHT³WRIST FLEX³ALTERNATING⁴WRIST FLEX²CROSS²TRIPLE STRAIGHT MOVEMENT",
    "³WRIST FLEX³ALTERNATING MOVEMENT⁴WRIST FLEX²BEND²CORNER SMALL³MEDIUM³LARGE²CHECK",
    "²BOX SMALL³MEDIUM³LARGE²ZIGZAG SMALL³MEDIUM³LARGE²PEAKS SMALL³MEDIUM³LARGE",
    "¹TRAVEL-FLOORPLANE ROTATION-FLOORPLANE SINGLE³DOUBLE³ALTERNATING",
    "²ROTATION-WALLPLANE SINGLE³DOUBLE³ALTERNATING²SHAKING",
    "¹MOVEMENT-WALLPLANE CURVE QUARTER SMALL⁴MEDIUM⁴LARGE⁴LARGEST³HALF-CIRCLE SMALL⁴MEDIUM",
    "⁴LARGE⁴LARGEST³THREE-QUARTER CIRCLE SMALL⁵MEDIUM²HUMP SMALL³MEDIUM³LARGE²LOOP SMALL",
    "³MEDIUM³LARGE³SMALL DOUBLE²WAVE CURVE DOUBLE SMALL⁵MEDIUM⁵LARGE⁴TRIPLE SMALL⁵MEDIUM",
    "⁵LARGE²CURVE THEN STRAIGHT²CURVED CROSS SMALL⁴MEDIUM¹ROTATION-WALLPLANE SINGLE²DOUBLE",
    "²ALTERNATE¹MOVEMENT-WALLPLANE SHAKING²CURVE HITTING FRONT WALL²HUMP HITTING FRONT WALL",
    "²LOOP HITTING FRONT WALL²WAVE HITTING FRONT WALL",
    "¹ROTATION-WALLPLANE SINGLE HITTING FRONT WALL²DOUBLE HITTING FRONT WALL",
    "²ALTERNATING HITTING FRONT WALL¹MOVEMENT-WALLPLANE CURVE HITTING CHEST",
    "²HUMP HITTING CHEST²LOOP HITTING CHEST²WAVE HITTING CHEST",
    "¹ROTATION-WALLPLANE SINGLE HITTING CHEST²DOUBLE HITTING CHEST²ALTERNATING HITTING CHEST",
    "¹MOVEMENT-WALLPLANE WAVE DIAGONAL PATH SMALL⁵MEDIUM⁵LARGE",
    "¹MOVEMENT-FLOORPLANE CURVE HITTING CEILING SMALL⁵LARGE²HUMP HITTING CEILING SMALL DOUBLE",
    "⁵LARGE DOUBLE⁵SMALL TRIPLE⁵LARGE TRIPLE²LOOP HITTING CEILING SMALL SINGLE⁵LARGE SINGLE",
    "⁵SMALL DOUBLE⁵LARGE DOUBLE²WAVE HITTING CEILING SMALL⁵LARGE",
    "¹ROTATION-FLOORPLANE SINGLE HITTING CEILING²DOUBLE HITTING CEILING",
    "²ALTERNATING HITTING CEILING¹MOVEMENT-FLOORPLANE CURVE HITTING FLOOR SMALL⁵LARGE",
    "²HUMP HITTING FLOOR SMALL DOUBLE⁵LARGE DOUBLE⁵TRIPLE SMALL TRIPLE⁶LARGE TRIPLE",
    "²LOOP HITTING FLOOR SMALL SINGLE⁵LARGE SINGLE⁵SMALL DOUBLE⁵LARGE DOUBLE",
    "²WAVE HITTING FLOOR SMALL⁵LARGE¹ROTATION-FLOORPLANE SINGLE HITTING FLOOR",
    "²DOUBLE HITTING FLOOR²ALTERNATING HITTING FLOOR¹MOVEMENT-FLOORPLANE CURVE SMALL³MEDIUM",
    "³LARGE³LARGEST³COMBINED²HUMP SMALL²LOOP SMALL²WAVE SNAKE³SMALL³LARGE",
    "¹ROTATION-FLOORPLANE SINGLE²DOUBLE²ALTERNATING¹MOVEMENT-FLOORPLANE SHAKING PARALLEL",
    "¹MOVEMENT-WALLPLANE ARM CIRCLE SMALL SINGLE⁴MEDIUM SINGLE⁴SMALL DOUBLE⁴MEDIUM DOUBLE",
    "¹MOVEMENT-FLOORPLANE ARM CIRCLE HITTING WALL SMALL SINGLE⁶MEDIUM SINGLE⁶LARGE SINGLE",
    "⁶SMALL DOUBLE⁶MEDIUM DOUBLE⁶LARGE DOUBLE¹MOVEMENT-WALLPLANE WRIST CIRCLE FRONT SINGLE",
    "⁵DOUBLE¹MOVEMENT-FLOORPLANE WRIST CIRCLE HITTING WALL SINGLE⁶DOUBLE",
    "¹MOVEMENT-WALLPLANE FINGER CIRCLES SINGLE⁴DOUBLE",
    "¹MOVEMENT-FLOORPLANE FINGER CIRCLES HITTING WALL SINGLE⁶DOUBLE¹DYNAMIC ARROWHEAD SMALL",
    "³LARGE²FAST²SLOW²TENSE²RELAXED²SIMULTANEOUS³ALTERNATING²EVERY OTHER TIME²GRADUAL¹HEAD",
    "²RIM²MOVEMENT-WALLPLANE STRAIGHT³TILT²MOVEMENT-FLOORPLANE STRAIGHT",
    "²MOVEMENT-WALLPLANE CURVE²MOVEMENT-FLOORPLANE CURVE²MOVEMENT CIRCLE",
    "¹FACE DIRECTION POSITION NOSE FORWARD TILTING⁵UP OR DOWN⁸TILTING¹EYEBROWS STRAIGHT UP",
    "³NEUTRAL³DOWN¹DREAMY EYEBROWS NEUTRAL DOWN³DOWN NEUTRAL³UP NEUTRAL³NEUTRAL UP",
    "¹FOREHEAD NEUTRAL²CONTACT²WRINKLED¹EYES OPEN²SQUEEZED²CLOSED¹EYE BLINK SINGLE³MULTIPLE",
    "¹EYES HALF OPEN²WIDE OPEN²HALF CLOSED²WIDENING MOVEMENT¹EYE WINK¹EYELASHES UP²DOWN",
    "²FLUTTERING¹EYEGAZE-WALLPLANE STRAIGHT³DOUBLE³ALTERNATING¹EYEGAZE-FLOORPLANE STRAIGHT",
    "³DOUBLE³ALTERNATING¹EYEGAZE-WALLPLANE CURVED¹EYEGAZE-FLOORPLANE CURVED",
    "¹EYEGAZE-WALLPLANE CIRCLING¹CHEEKS PUFFED²NEUTRAL²SUCKED¹TENSE CHEEKS HIGH³MIDDLE³LOW",
    "¹EARS¹NOSE NEUTRAL²CONTACT²WRINKLES²WIGGLES¹AIR BLOWING OUT²SUCKING IN",
    "²BLOW SMALL ROTATIONS²SUCK SMALL ROTATIONS¹BREATH INHALE²EXHALE¹MOUTH CLOSED NEUTRAL",
    "³FORWARD³CONTACT²SMILE³WRINKLED³OPEN²FROWN³WRINKLED³OPEN²OPEN CIRCLE³FORWARD³WRINKLED",
    "³OVAL⁴WRINKLED⁴YAWN³RECTANGLE⁴WRINKLED⁴YAWN²KISS³FORWARD³WRINKLED²TENSE³FORWARD³SUCKED",
    "¹LIPS PRESSED TOGETHER¹LIP LOWER OVER UPPER²UPPER OVER LOWER¹MOUTH CORNERS",
    "²WRINKLES SINGLE³DOUBLE¹TONGUE STICKING OUT FAR²LICKING LIPS²TIP BETWEEN LIPS",
    "³TOUCHING INSIDE MOUTH²INSIDE MOUTH RELAXED²MOVES AGAINST CHEEK²CENTRE STICKING OUT",
    "³INSIDE MOUTH¹TEETH²MOVEMENT²ON TONGUE⁴MOVEMENT³LIPS⁴MOVEMENT²BITE LIPS",
    "¹MOVEMENT-WALLPLANE JAW¹MOVEMENT-FLOORPLANE JAW¹NECK¹HAIR¹EXCITEMENT¹SHOULDER HIP SPINE",
    "³POSITIONS¹WALLPLANE SHOULDER HIP MOVE¹FLOORPLANE SHOULDER HIP MOVE",
    "¹SHOULDER TILTING FROM WAIST¹TORSO-WALLPLANE STRAIGHT STRETCH²CURVED BEND",
    "¹TORSO-FLOORPLANE TWISTING¹UPPER BODY TILTING FROM HIP JOINTS¹LIMB COMBINATION²LENGTH-1",
    "²LENGTH-2²LENGTH-3²LENGTH-4²LENGTH-5²LENGTH-6²LENGTH-7¹FINGER¹LOCATION-WALLPLANE SPACE",
    "¹LOCATION-FLOORPLANE SPACE¹LOCATION HEIGHT²WIDTH²DEPTH²HEAD NECK²TORSO²LIMBS DIGITS",
    "¹COMMA¹FULL STOP¹SEMICOLON¹COLON¹PARENTHESIS"]⟩,
  ⟨0x1da9b, ["⁰SIGNWRITING FILL MODIFIER-2²MODIFIER-3²MODIFIER-4²MODIFIER-5²MODIFIER-6"]⟩,
  ⟨0x1daa1, [
    "⁰SIGNWRITING ROTATION MODIFIER-2²MODIFIER-3²MODIFIER-4²MODIFIER-5²MODIFIER-6²MODIFIER-7",
    "²MODIFIER-8²MODIFIER-9²MODIFIER-10²MODIFIER-11²MODIFIER-12²MODIFIER-13²MODIFIER-14",
    "²MODIFIER-15²MODIFIER-16"]⟩,
  ⟨0x1df00, [
    "⁰LATIN SMALL LETTER FENG DIGRAPH WITH TRILL³REVERSED SCRIPT G",
    "¹LETTER SMALL CAPITAL TURNED G¹SMALL LETTER REVERSED K¹LETTER SMALL CAPITAL L WITH BELT",
    "¹SMALL LETTER LEZH WITH RETROFLEX HOOK³TURNED Y WITH BELT³REVERSED ENG",
    "³TURNED R WITH LONG LEG AND RETROFLEX HOOK³T WITH HOOK AND RETROFLEX HOOK",
    "¹LETTER RETROFLEX CLICK WITH RETROFLEX HOOK¹SMALL LETTER ESH WITH DOUBLE BAR⁷AND CURL",
    "³TURNED T WITH CURL¹LETTER INVERTED GLOTTAL STOP WITH CURL²STRETCHED C WITH CURL",
    "²SMALL CAPITAL TURNED K¹SMALL LETTER L WITH FISHHOOK³DEZH DIGRAPH WITH PALATAL HOOK",
    "³L WITH BELT AND PALATAL HOOK³ENG WITH PALATAL HOOK³TURNED R WITH PALATAL HOOK",
    "³R WITH FISHHOOK AND PALATAL HOOK³TESH DIGRAPH WITH PALATAL HOOK³EZH WITH PALATAL HOOK",
    "³DEZH DIGRAPH WITH RETROFLEX HOOK³I WITH STROKE AND RETROFLEX HOOK³O WITH RETROFLEX HOOK",
    "³TESH DIGRAPH WITH RETROFLEX HOOK³C WITH RETROFLEX HOOK³S WITH CURL"]⟩,
  ⟨0x1e000, ["⁰COMBINING GLAGOLITIC LETTER AZU³BUKY³VEDE³GLAGOLI³DOBRO³YESTU³ZHIVETE"]⟩,
  ⟨0x1e008, [
    "⁰COMBINING GLAGOLITIC LETTER ZEMLJA³IZHE³INITIAL IZHE³I³DJERVI³KAKO³LJUDIJE³MYSLITE",
    "³NASHI³ONU³POKOJI³RITSI³SLOVO³TVRIDO³UKU³FRITU³HERU"]⟩,
  ⟨0x1e01b, ["⁰COMBINING GLAGOLITIC LETTER SHTA³TSI³CHRIVI³SHA³YERU³YERI³YATI"]⟩,
  ⟨0x1e023, ["⁰COMBINING GLAGOLITIC LETTER YU³SMALL YUS"]⟩,
  ⟨0x1e026, [
    "⁰COMBINING GLAGOLITIC LETTER YO³IOTATED SMALL YUS³BIG YUS³IOTATED BIG YUS³FITA"]⟩,
  ⟨0x1e100, [
    "⁰NYIAKENG PUACHUE HMONG LETTER MA⁴TSA⁴NTA⁴TA⁴HA⁴NA⁴XA⁴NKA⁴CA⁴LA⁴SA⁴ZA⁴NCA⁴NTSA⁴KA⁴DA⁴NYA",
    "⁴NRA⁴VA⁴NTXA⁴TXA⁴FA⁴RA⁴QA⁴YA⁴NQA⁴PA⁴XYA⁴NPA⁴DLA⁴NPLA⁴HAH⁴MLA⁴PLA⁴GA⁴RRA⁴A⁴AA⁴I⁴U⁴O⁴OO⁴E",
    "⁴EE⁴W"]⟩,
  ⟨0x1e130, [
    "⁰NYIAKENG PUACHUE HMONG TONE-B³TONE-M³TONE-J³TONE-V³TONE-S³TONE-G³TONE-D³SIGN FOR PERSON",
    "⁵THING⁵LOCATION⁵ANIMAL⁵INVERTEBRATE⁴XW XW³SYLLABLE LENGTHENER"]⟩,
  ⟨0x1e140, [
    "⁰NYIAKENG PUACHUE HMONG DIGIT ZERO⁴ONE⁴TWO⁴THREE⁴FOUR⁴FIVE⁴SIX⁴SEVEN⁴EIGHT⁴NINE"]⟩,
  ⟨0x1e14e, ["⁰NYIAKENG PUACHUE HMONG LOGOGRAM NYAJ³CIRCLED CA"]⟩,
  ⟨0x1e290, [
    "⁰TOTO LETTER PA²BA²TA²DA²KA²GA²MA²NA²NGA²SA²CHA²YA²WA²JA²HA²RA²LA²I²BREATHY I²IU",
    "²BREATHY IU²U²E²BREATHY E²EO²BREATHY EO²O²AE²BREATHY AE²A¹SIGN RISING TONE"]⟩,
  ⟨0x1e2c0, [
    "⁰WANCHO LETTER AA²A²BA²CA²DA²GA²YA²PHA²LA²NA²PA²TA²THA²FA²SA²SHA²JA²ZA²WA²VA²KA²O²AU²RA",
    "²MA²KHA²HA²E²I²NGA²U²LLHA²TSA²TRA²ONG²AANG²ANG²ING²ON²EN²AAN²NYA²UEN²YIH¹TONE TUP²TUPNI",
    "²KOI²KOINI¹DIGIT ZERO²ONE²TWO²THREE²FOUR²FIVE²SIX²SEVEN²EIGHT²NINE"]⟩,
  ⟨0x1e2ff, ["⁰WANCHO NGUN SIGN"]⟩,
  ⟨0x1e7e0, ["⁰ETHIOPIC SYLLABLE HHYA²HHYU²HHYI²HHYAA²HHYEE²HHYE²HHYO"]⟩,
  ⟨0x1e7e8, ["⁰ETHIOPIC SYLLABLE GURAGE HHWA²HHWI²HHWEE²HHWE"]⟩,
  ⟨0x1e7ed, ["⁰ETHIOPIC SYLLABLE GURAGE MWI³MWEE"]⟩,
  ⟨0x1e7f0, [
    "⁰ETHIOPIC SYLLABLE GURAGE QWI³QWEE³QWE³BWI³BWEE³KWI³KWEE³KWE³GWI³GWEE³GWE³FWI³FWEE³PWI",
    "³PWEE"]⟩,
  ⟨0x1e800, [
    "⁰MENDE KIKAKUI SYLLABLE M001 KI³M002 KA³M003 KU³M065 KEE³M095 KE³M076 KOO³M048 KO",
    "³M179 KUA³M004 WI³M005 WA³M006 WU³M126 WEE³M118 WE³M114 WOO³M045 WO³M194 WUI³M143 WEI",
    "³M061 WVI³M049 WVA³M139 WVE³M007 MIN³M008 MAN³M009 MUN³M059 MEN³M094 MON³M154 MUAN",
    "³M189 MUEN³M010 BI³M011 BA³M012 BU³M150 BEE³M097 BE³M103 BOO³M138 BO³M013 I³M014 A",
    "³M015 U³M163 EE³M100 E³M165 OO³M147 O³M137 EI³M131 IN³M135 IN³M195 AN³M178 EN³M019 SI",
    "³M020 SA³M021 SU³M162 SEE³M116 SE³M136 SOO³M079 SO³M196 SIA³M025 LI³M026 LA³M027 LU",
    "³M084 LEE³M073 LE³M054 LOO³M153 LO³M110 LONG LE³M016 DI³M017 DA³M018 DU³M089 DEE",
    "³M180 DOO³M181 DO³M022 TI³M023 TA³M024 TU³M091 TEE³M055 TE³M104 TOO³M069 TO³M028 JI",
    "³M029 JA³M030 JU³M157 JEE³M113 JE³M160 JOO³M063 JO³M175 LONG JO³M031 YI³M032 YA³M033 YU",
    "³M109 YEE³M080 YE³M141 YOO³M121 YO³M034 FI³M035 FA³M036 FU³M078 FEE³M075 FE³M133 FOO",
    "³M088 FO³M197 FUA³M101 FAN³M037 NIN³M038 NAN³M039 NUN³M117 NEN³M169 NON³M176 HI³M041 HA",
    "³M186 HU³M040 HEE³M096 HE³M042 HOO³M140 HO³M083 HEEI³M128 HOOU³M053 HIN³M130 HAN",
    "³M087 HUN³M052 HEN³M193 HON³M046 HUAN³M090 NGGI³M043 NGGA³M082 NGGU³M115 NGGEE³M146 NGGE",
    "³M156 NGGOO³M120 NGGO³M159 NGGAA³M127 NGGUA³M086 LONG NGGE³M106 LONG NGGOO",
    "³M183 LONG NGGO³M155 GI³M111 GA³M168 GU³M190 GEE³M166 GUEI³M167 GUAN³M184 NGEN³M057 NGON",
    "³M177 NGUAN³M068 PI³M099 PA³M050 PU³M081 PEE³M051 PE³M102 POO³M066 PO³M145 MBI³M062 MBA",
    "³M122 MBU³M047 MBEE³M188 MBEE³M072 MBE³M172 MBOO³M174 MBO³M187 MBUU³M161 LONG MBE",
    "³M105 LONG MBOO³M142 LONG MBO³M132 KPI³M092 KPA³M074 KPU³M044 KPEE³M108 KPE³M112 KPOO",
    "³M158 KPO³M124 GBI³M056 GBA³M148 GBU³M093 GBEE³M107 GBE³M071 GBOO³M070 GBO³M171 RA",
    "³M123 NDI³M129 NDA³M125 NDU³M191 NDEE³M119 NDE³M067 NDOO³M064 NDO³M152 NJA³M192 NJU",
    "³M149 NJEE³M134 NJOO³M182 VI³M185 VA³M151 VU³M173 VEE³M085 VE³M144 VOO³M077 VO³M164 NYIN",
    "³M058 NYAN³M170 NYUN³M098 NYEN³M060 NYON"]⟩,
  ⟨0x1e8c7, [
    "⁰MENDE KIKAKUI DIGIT ONE³TWO³THREE³FOUR³FIVE³SIX³SEVEN³EIGHT³NINE²COMBINING NUMBER TEENS",
    "⁴TENS⁴HUNDREDS⁴THOUSANDS⁴TEN THOUSANDS⁴HUNDRED THOUSANDS⁴MILLIONS"]⟩,
  ⟨0x1e900, [
    "⁰ADLAM CAPITAL LETTER ALIF³DAALI³LAAM³MIIM³BA³SINNYIIYHE³PE³BHE³RA³E³FA³I³O³DHA³YHE³WAW",
    "³NUN³KAF³YA³U³JIIM³CHI³HA³QAAF³GA³NYA³TU³NHA³VA³KHA³GBE³ZAL³KPO³SHA¹SMALL LETTER ALIF",
    "³DAALI³LAAM³MIIM³BA³SINNYIIYHE³PE³BHE³RA³E³FA³I³O³DHA³YHE³WAW³NUN³KAF³YA³U³JIIM³CHI³HA",
    "³QAAF³GA³NYA³TU³NHA³VA³KHA³GBE³ZAL³KPO³SHA¹ALIF LENGTHENER¹VOWEL LENGTHENER",
    "¹GEMINATION MARK¹HAMZA¹CONSONANT MODIFIER¹GEMINATE CONSONANT MODIFIER¹NUKTA",
    "¹NASALIZATION MARK"]⟩,
  ⟨0x1e950, ["⁰ADLAM DIGIT ZERO²ONE²TWO²THREE²FOUR²FIVE²SIX²SEVEN²EIGHT²NINE"]⟩,
  ⟨0x1e95e, ["⁰ADLAM INITIAL EXCLAMATION MARK²QUESTION MARK"]⟩,
  ⟨0x1ec71, [
    "⁰INDIC SIYAQ NUMBER ONE³TWO³THREE³FOUR³FIVE³SIX³SEVEN³EIGHT³NINE³TEN³TWENTY³THIRTY³FORTY",
    "³FIFTY³SIXTY³SEVENTY³EIGHTY³NINETY³ONE HUNDRED³TWO HUNDRED³THREE HUNDRED³FOUR HUNDRED",
    "³FIVE HUNDRED³SIX HUNDRED³SEVEN HUNDRED³EIGHT HUNDRED³NINE HUNDRED³ONE THOUSAND",
    "³TWO THOUSAND³THREE THOUSAND³FOUR THOUSAND³FIVE THOUSAND³SIX THOUSAND³SEVEN THOUSAND",
    "³EIGHT THOUSAND³NINE THOUSAND³TEN THOUSAND³TWENTY THOUSAND³THIRTY THOUSAND",
    "³FORTY THOUSAND³FIFTY THOUSAND³SIXTY THOUSAND³SEVENTY THOUSAND³EIGHTY THOUSAND",
    "³NINETY THOUSAND³LAKH³LAKHAN²LAKH MARK²NUMBER KAROR³KARORAN³PREFIXED ONE⁴TWO⁴THREE⁴FOUR",
    "⁴FIVE⁴SIX⁴SEVEN⁴EIGHT⁴NINE²PLACEHOLDER²FRACTION ONE QUARTER⁴HALF³THREE QUARTERS",
    "²RUPEE MARK²NUMBER ALTERNATE ONE⁴TWO⁴TEN THOUSAND²ALTERNATE LAKH MARK"]⟩,
  ⟨0x1ed01, [
    "⁰OTTOMAN SIYAQ NUMBER ONE³TWO³THREE³FOUR³FIVE³SIX³SEVEN³EIGHT³NINE³TEN³TWENTY³THIRTY",
    "³FORTY³FIFTY³SIXTY³SEVENTY³EIGHTY³NINETY³ONE HUNDRED³TWO HUNDRED³THREE HUNDRED",
    "³FOUR HUNDRED³FIVE HUNDRED³SIX HUNDRED³SEVEN HUNDRED³EIGHT HUNDRED³NINE HUNDRED",
    "³ONE THOUSAND³TWO THOUSAND³THREE THOUSAND³FOUR THOUSAND³FIVE THOUSAND³SIX THOUSAND",
    "³SEVEN THOUSAND³EIGHT THOUSAND³NINE THOUSAND³TEN THOUSAND³TWENTY THOUSAND",
    "³THIRTY THOUSAND³FORTY THOUSAND³FIFTY THOUSAND³SIXTY THOUSAND³SEVENTY THOUSAND",
    "³EIGHTY THOUSAND³NINETY THOUSAND²MARRATAN²ALTERNATE NUMBER TWO⁴THREE⁴FOUR⁴FIVE⁴SIX⁴SEVEN",
    "⁴EIGHT⁴NINE⁴TEN⁴FOUR HUNDRED⁴SIX HUNDRED⁴TWO THOUSAND⁴TEN THOUSAND²FRACTION ONE HALF",
    "⁴SIXTH"]⟩,
  ⟨0x1ee00, ["⁰ARABIC MATHEMATICAL ALEF²BEH²JEEM²DAL"]⟩,
  ⟨0x1ee05, [
    "⁰ARABIC MATHEMATICAL WAW²ZAIN²HAH²TAH²YEH²KAF²LAM²MEEM²NOON²SEEN²AIN²FEH²SAD²QAF²REH",
    "²SHEEN²TEH²THEH²KHAH²THAL²DAD²ZAH²GHAIN²DOTLESS BEH³NOON³FEH³QAF"]⟩,
  ⟨0x1ee21, ["⁰ARABIC MATHEMATICAL INITIAL BEH³JEEM"]⟩,
  ⟨0x1ee24, ["⁰ARABIC MATHEMATICAL INITIAL HEH"]⟩,
  ⟨0x1ee27, ["⁰ARABIC MATHEMATICAL INITIAL HAH"]⟩,
  ⟨0x1ee29, ["⁰ARABIC MATHEMATICAL INITIAL YEH³KAF³LAM³MEEM³NOON³SEEN³AIN³FEH³SAD³QAF"]⟩,
  ⟨0x1ee34, ["⁰ARABIC MATHEMATICAL INITIAL SHEEN³TEH³THEH³KHAH"]⟩,
  ⟨0x1ee39, ["⁰ARABIC MATHEMATICAL INITIAL DAD"]⟩,
  ⟨0x1ee3b, ["⁰ARABIC MATHEMATICAL INITIAL GHAIN"]⟩,
  ⟨0x1ee42, ["⁰ARABIC MATHEMATICAL TAILED JEEM"]⟩,
  ⟨0x1ee47, ["⁰ARABIC MATHEMATICAL TAILED HAH"]⟩,
  ⟨0x1ee49, ["⁰ARABIC MATHEMATICAL TAILED YEH"]⟩,
  ⟨0x1ee4b, ["⁰ARABIC MATHEMATICAL TAILED LAM"]⟩,
  ⟨0x1ee4d, ["⁰ARABIC MATHEMATICAL TAILED NOON³SEEN³AIN"]⟩,
  ⟨0x1ee51, ["⁰ARABIC MATHEMATICAL TAILED SAD³QAF"]⟩,
  ⟨0x1ee54, ["⁰ARABIC MATHEMATICAL TAILED SHEEN"]⟩,
  ⟨0x1ee57, ["⁰ARABIC MATHEMATICAL TAILED KHAH"]⟩,
  ⟨0x1ee59, ["⁰ARABIC MATHEMATICAL TAILED DAD"]⟩,
  ⟨0x1ee5b, ["⁰ARABIC MATHEMATICAL TAILED GHAIN"]⟩,
  ⟨0x1ee5d, ["⁰ARABIC MATHEMATICAL TAILED DOTLESS NOON"]⟩,
  ⟨0x1ee5f, ["⁰ARABIC MATHEMATICAL TAILED DOTLESS QAF"]⟩,
  ⟨0x1ee61, ["⁰ARABIC MATHEMATICAL STRETCHED BEH³JEEM"]⟩,
  ⟨0x1ee64, ["⁰ARABIC MATHEMATICAL STRETCHED HEH"]⟩,
  ⟨0x1ee67, ["⁰ARABIC MATHEMATICAL STRETCHED HAH³TAH³YEH³KAF"]⟩,
  ⟨0x1ee6c, ["⁰ARABIC MATHEMATICAL STRETCHED MEEM³NOON³SEEN³AIN³FEH³SAD³QAF"]⟩,
  ⟨0x1ee74, ["⁰ARABIC MATHEMATICAL STRETCHED SHEEN³TEH³THEH³KHAH"]⟩,
  ⟨0x1ee79, ["⁰ARABIC MATHEMATICAL STRETCHED DAD³ZAH³GHAIN³DOTLESS BEH"]⟩,
  ⟨0x1ee7e, ["⁰ARABIC MATHEMATICAL STRETCHED DOTLESS FEH"]⟩,
  ⟨0x1ee80, ["⁰ARABIC MATHEMATICAL LOOPED ALEF³BEH³JEEM³DAL³HEH³WAW³ZAIN³HAH³TAH³YEH"]⟩,
  ⟨0x1ee8b, [
    "⁰ARABIC MATHEMATICAL LOOPED LAM³MEEM³NOON³SEEN³AIN³FEH³SAD³QAF³REH³SHEEN³TEH³THEH³KHAH",
    "³THAL³DAD³ZAH³GHAIN"]⟩,
  ⟨0x1eea1, ["⁰ARABIC MATHEMATICAL DOUBLE-STRUCK BEH³JEEM³DAL"]⟩,
  ⟨0x1eea5, ["⁰ARABIC MATHEMATICAL DOUBLE-STRUCK WAW³ZAIN³HAH³TAH³YEH"]⟩,
  ⟨0x1eeab, [
    "⁰ARABIC MATHEMATICAL DOUBLE-STRUCK LAM³MEEM³NOON³SEEN³AIN³FEH³SAD³QAF³REH³SHEEN³TEH³THEH",
    "³KHAH³THAL³DAD³ZAH³GHAIN"]⟩,
  ⟨0x1eef0, ["⁰ARABIC MATHEMATICAL OPERATOR MEEM WITH HAH WITH TATWEEL³HAH WITH DAL"]⟩]

end BlockLang.CharName
