import BlockLang.Encoding.CharName.Basic

/-! # Names of pictographs -/

namespace BlockLang.CharName

/-- The names of pictographs, of symbols of games and of tags. -/
def pictographs : List Run := [
  ⟨0x1f000, [
    "⁰MAHJONG TILE EAST WIND²SOUTH WIND²WEST WIND²NORTH WIND²RED DRAGON²GREEN DRAGON",
    "²WHITE DRAGON²ONE OF CHARACTERS²TWO OF CHARACTERS²THREE OF CHARACTERS²FOUR OF CHARACTERS",
    "²FIVE OF CHARACTERS²SIX OF CHARACTERS²SEVEN OF CHARACTERS²EIGHT OF CHARACTERS",
    "²NINE OF CHARACTERS²ONE OF BAMBOOS²TWO OF BAMBOOS²THREE OF BAMBOOS²FOUR OF BAMBOOS",
    "²FIVE OF BAMBOOS²SIX OF BAMBOOS²SEVEN OF BAMBOOS²EIGHT OF BAMBOOS²NINE OF BAMBOOS",
    "²ONE OF CIRCLES²TWO OF CIRCLES²THREE OF CIRCLES²FOUR OF CIRCLES²FIVE OF CIRCLES",
    "²SIX OF CIRCLES²SEVEN OF CIRCLES²EIGHT OF CIRCLES²NINE OF CIRCLES²PLUM²ORCHID²BAMBOO",
    "²CHRYSANTHEMUM²SPRING²SUMMER²AUTUMN²WINTER²JOKER²BACK"]⟩,
  ⟨0x1f030, [
    "⁰DOMINO TILE HORIZONTAL BACK²HORIZONTAL-00-00²HORIZONTAL-00-01²HORIZONTAL-00-02",
    "²HORIZONTAL-00-03²HORIZONTAL-00-04²HORIZONTAL-00-05²HORIZONTAL-00-06²HORIZONTAL-01-00",
    "²HORIZONTAL-01-01²HORIZONTAL-01-02²HORIZONTAL-01-03²HORIZONTAL-01-04²HORIZONTAL-01-05",
    "²HORIZONTAL-01-06²HORIZONTAL-02-00²HORIZONTAL-02-01²HORIZONTAL-02-02²HORIZONTAL-02-03",
    "²HORIZONTAL-02-04²HORIZONTAL-02-05²HORIZONTAL-02-06²HORIZONTAL-03-00²HORIZONTAL-03-01",
    "²HORIZONTAL-03-02²HORIZONTAL-03-03²HORIZONTAL-03-04²HORIZONTAL-03-05²HORIZONTAL-03-06",
    "²HORIZONTAL-04-00²HORIZONTAL-04-01²HORIZONTAL-04-02²HORIZONTAL-04-03²HORIZONTAL-04-04",
    "²HORIZONTAL-04-05²HORIZONTAL-04-06²HORIZONTAL-05-00²HORIZONTAL-05-01²HORIZONTAL-05-02",
    "²HORIZONTAL-05-03²HORIZONTAL-05-04²HORIZONTAL-05-05²HORIZONTAL-05-06²HORIZONTAL-06-00",
    "²HORIZONTAL-06-01²HORIZONTAL-06-02²HORIZONTAL-06-03²HORIZONTAL-06-04²HORIZONTAL-06-05",
    "²HORIZONTAL-06-06²VERTICAL BACK²VERTICAL-00-00²VERTICAL-00-01²VERTICAL-00-02",
    "²VERTICAL-00-03²VERTICAL-00-04²VERTICAL-00-05²VERTICAL-00-06²VERTICAL-01-00",
    "²VERTICAL-01-01²VERTICAL-01-02²VERTICAL-01-03²VERTICAL-01-04²VERTICAL-01-05",
    "²VERTICAL-01-06²VERTICAL-02-00²VERTICAL-02-01²VERTICAL-02-02²VERTICAL-02-03",
    "²VERTICAL-02-04²VERTICAL-02-05²VERTICAL-02-06²VERTICAL-03-00²VERTICAL-03-01",
    "²VERTICAL-03-02²VERTICAL-03-03²VERTICAL-03-04²VERTICAL-03-05²VERTICAL-03-06",
    "²VERTICAL-04-00²VERTICAL-04-01²VERTICAL-04-02²VERTICAL-04-03²VERTICAL-04-04",
    "²VERTICAL-04-05²VERTICAL-04-06²VERTICAL-05-00²VERTICAL-05-01²VERTICAL-05-02",
    "²VERTICAL-05-03²VERTICAL-05-04²VERTICAL-05-05²VERTICAL-05-06²VERTICAL-06-00",
    "²VERTICAL-06-01²VERTICAL-06-02²VERTICAL-06-03²VERTICAL-06-04²VERTICAL-06-05",
    "²VERTICAL-06-06"]⟩,
  ⟨0x1f0a0, [
    "⁰PLAYING CARD BACK²ACE OF SPADES²TWO OF SPADES²THREE OF SPADES²FOUR OF SPADES",
    "²FIVE OF SPADES²SIX OF SPADES²SEVEN OF SPADES²EIGHT OF SPADES²NINE OF SPADES",
    "²TEN OF SPADES²JACK OF SPADES²KNIGHT OF SPADES²QUEEN OF SPADES²KING OF SPADES"]⟩,
  ⟨0x1f0b1, [
    "⁰PLAYING CARD ACE OF HEARTS²TWO OF HEARTS²THREE OF HEARTS²FOUR OF HEARTS²FIVE OF HEARTS",
    "²SIX OF HEARTS²SEVEN OF HEARTS²EIGHT OF HEARTS²NINE OF HEARTS²TEN OF HEARTS",
    "²JACK OF HEARTS²KNIGHT OF HEARTS²QUEEN OF HEARTS²KING OF HEARTS²RED JOKER"]⟩,
  ⟨0x1f0c1, [
    "⁰PLAYING CARD ACE OF DIAMONDS²TWO OF DIAMONDS²THREE OF DIAMONDS²FOUR OF DIAMONDS",
    "²FIVE OF DIAMONDS²SIX OF DIAMONDS²SEVEN OF DIAMONDS²EIGHT OF DIAMONDS²NINE OF DIAMONDS",
    "²TEN OF DIAMONDS²JACK OF DIAMONDS²KNIGHT OF DIAMONDS²QUEEN OF DIAMONDS²KING OF DIAMONDS",
    "²BLACK JOKER"]⟩,
  ⟨0x1f0d1, [
    "⁰PLAYING CARD ACE OF CLUBS²TWO OF CLUBS²THREE OF CLUBS²FOUR OF CLUBS²FIVE OF CLUBS",
    "²SIX OF CLUBS²SEVEN OF CLUBS²EIGHT OF CLUBS²NINE OF CLUBS²TEN OF CLUBS²JACK OF CLUBS",
    "²KNIGHT OF CLUBS²QUEEN OF CLUBS²KING OF CLUBS²WHITE JOKER²FOOL²TRUMP-1²TRUMP-2²TRUMP-3",
    "²TRUMP-4²TRUMP-5²TRUMP-6²TRUMP-7²TRUMP-8²TRUMP-9²TRUMP-10²TRUMP-11²TRUMP-12²TRUMP-13",
    "²TRUMP-14²TRUMP-15²TRUMP-16²TRUMP-17²TRUMP-18²TRUMP-19²TRUMP-20²TRUMP-21"]⟩,
  ⟨0x1f100, [
    "⁰DIGIT ZERO FULL STOP²COMMA¹ONE COMMA¹TWO COMMA¹THREE COMMA¹FOUR COMMA¹FIVE COMMA",
    "¹SIX COMMA¹SEVEN COMMA¹EIGHT COMMA¹NINE COMMA⁰DINGBAT CIRCLED SANS-SERIF DIGIT ZERO",
    "¹NEGATIVE CIRCLED SANS-SERIF DIGIT ZERO⁰CIRCLED ZERO WITH SLASH¹ANTICLOCKWISE ARROW",
    "¹DOLLAR SIGN WITH OVERLAID BACKSLASH⁰PARENTHESIZED LATIN CAPITAL LETTER A⁴B⁴C⁴D⁴E⁴F⁴G⁴H",
    "⁴I⁴J⁴K⁴L⁴M⁴N⁴O⁴P⁴Q⁴R⁴S⁴T⁴U⁴V⁴W⁴X⁴Y⁴Z⁰TORTOISE SHELL BRACKETED LATIN CAPITAL LETTER S",
    "⁰CIRCLED ITALIC LATIN CAPITAL LETTER C⁵R¹CD¹WZ⁰COPYLEFT SYMBOL",
    "⁰SQUARED LATIN CAPITAL LETTER A⁴B⁴C⁴D⁴E⁴F⁴G⁴H⁴I⁴J⁴K⁴L⁴M⁴N⁴O⁴P⁴Q⁴R⁴S⁴T⁴U⁴V⁴W⁴X⁴Y⁴Z¹HV¹MV",
    "¹SD¹SS¹PPV¹WC⁰NEGATIVE CIRCLED LATIN CAPITAL LETTER A⁵B⁵C⁵D⁵E⁵F⁵G⁵H⁵I⁵J⁵K⁵L⁵M⁵N⁵O⁵P⁵Q⁵R",
    "⁵S⁵T⁵U⁵V⁵W⁵X⁵Y⁵Z⁰RAISED MC SIGN¹MD SIGN¹MR SIGN⁰CIRCLED CC¹C WITH OVERLAID BACKSLASH",
    "¹HUMAN FIGURE⁰NEGATIVE SQUARED LATIN CAPITAL LETTER A⁵B⁵C⁵D⁵E⁵F⁵G⁵H⁵I⁵J⁵K⁵L⁵M⁵N⁵O⁵P⁵Q⁵R",
    "⁵S⁵T⁵U⁵V⁵W⁵X⁵Y⁵Z⁰CROSSED NEGATIVE SQUARED LATIN CAPITAL LETTER P⁰NEGATIVE SQUARED IC²PA",
    "²SA²AB²WC⁰SQUARE DJ⁰SQUARED CL¹COOL¹FREE¹ID¹NEW¹NG¹OK¹SOS¹UP WITH EXCLAMATION MARK¹VS",
    "¹THREE D¹SECOND SCREEN¹TWO K¹FOUR K¹EIGHT K¹FIVE POINT ONE¹SEVEN POINT ONE",
    "¹TWENTY-TWO POINT TWO¹SIXTY P¹ONE HUNDRED TWENTY P¹LATIN SMALL LETTER D¹HC¹HDR¹HI-RES",
    "¹LOSSLESS¹SHV¹UHD¹VOD⁰MASK WORK SYMBOL"]⟩,
  ⟨0x1f1e6, [
    "⁰REGIONAL INDICATOR SYMBOL LETTER A⁴B⁴C⁴D⁴E⁴F⁴G⁴H⁴I⁴J⁴K⁴L⁴M⁴N⁴O⁴P⁴Q⁴R⁴S⁴T⁴U⁴V⁴W⁴X⁴Y⁴Z",
    "⁰SQUARE HIRAGANA HOKA⁰SQUARED KATAKANA KOKO²SA"]⟩,
  ⟨0x1f210, [
    "⁰SQUARED CJK UNIFIED IDEOGRAPH-624B³IDEOGRAPH-5B57³IDEOGRAPH-53CC¹KATAKANA DE",
    "¹CJK UNIFIED IDEOGRAPH-4E8C³IDEOGRAPH-591A³IDEOGRAPH-89E3³IDEOGRAPH-5929³IDEOGRAPH-4EA4",
    "³IDEOGRAPH-6620³IDEOGRAPH-7121³IDEOGRAPH-6599³IDEOGRAPH-524D³IDEOGRAPH-5F8C",
    "³IDEOGRAPH-518D³IDEOGRAPH-65B0³IDEOGRAPH-521D³IDEOGRAPH-7D42³IDEOGRAPH-751F",
    "³IDEOGRAPH-8CA9³IDEOGRAPH-58F0³IDEOGRAPH-5439³IDEOGRAPH-6F14³IDEOGRAPH-6295",
    "³IDEOGRAPH-6355³IDEOGRAPH-4E00³IDEOGRAPH-4E09³IDEOGRAPH-904A³IDEOGRAPH-5DE6",
    "³IDEOGRAPH-4E2D³IDEOGRAPH-53F3³IDEOGRAPH-6307³IDEOGRAPH-8D70³IDEOGRAPH-6253",
    "³IDEOGRAPH-7981³IDEOGRAPH-7A7A³IDEOGRAPH-5408³IDEOGRAPH-6E80³IDEOGRAPH-6709",
    "³IDEOGRAPH-6708³IDEOGRAPH-7533³IDEOGRAPH-5272³IDEOGRAPH-55B6³IDEOGRAPH-914D"]⟩,
  ⟨0x1f240, [
    "⁰TORTOISE SHELL BRACKETED CJK UNIFIED IDEOGRAPH-672C⁵IDEOGRAPH-4E09⁵IDEOGRAPH-4E8C",
    "⁵IDEOGRAPH-5B89⁵IDEOGRAPH-70B9⁵IDEOGRAPH-6253⁵IDEOGRAPH-76D7⁵IDEOGRAPH-52DD",
    "⁵IDEOGRAPH-6557"]⟩,
  ⟨0x1f250, ["⁰CIRCLED IDEOGRAPH ADVANTAGE²ACCEPT"]⟩,
  ⟨0x1f260, ["⁰ROUNDED SYMBOL FOR FU³LU³SHOU³XI³SHUANGXI³CAI"]⟩,
  ⟨0x1f300, [
    "⁰CYCLONE⁰FOGGY⁰CLOSED UMBRELLA⁰NIGHT WITH STARS⁰SUNRISE OVER MOUNTAINS⁰SUNRISE",
    "⁰CITYSCAPE AT DUSK⁰SUNSET OVER BUILDINGS⁰RAINBOW⁰BRIDGE AT NIGHT⁰WATER WAVE⁰VOLCANO",
    "⁰MILKY WAY⁰EARTH GLOBE EUROPE-AFRICA²AMERICAS²ASIA-AUSTRALIA⁰GLOBE WITH MERIDIANS",
    "⁰NEW MOON SYMBOL⁰WAXING CRESCENT MOON SYMBOL⁰FIRST QUARTER MOON SYMBOL",
    "⁰WAXING GIBBOUS MOON SYMBOL⁰FULL MOON SYMBOL⁰WANING GIBBOUS MOON SYMBOL",
    "⁰LAST QUARTER MOON SYMBOL⁰WANING CRESCENT MOON SYMBOL⁰CRESCENT MOON⁰NEW MOON WITH FACE",
    "⁰FIRST QUARTER MOON WITH FACE⁰LAST QUARTER MOON WITH FACE⁰FULL MOON WITH FACE",
    "⁰SUN WITH FACE⁰GLOWING STAR⁰SHOOTING STAR⁰THERMOMETER⁰BLACK DROPLET⁰WHITE SUN",
    "²WITH SMALL CLOUD²BEHIND CLOUD⁴WITH RAIN⁰CLOUD WITH RAIN²SNOW²LIGHTNING²TORNADO⁰FOG",
    "⁰WIND BLOWING FACE⁰HOT DOG⁰TACO⁰BURRITO⁰CHESTNUT⁰SEEDLING⁰EVERGREEN TREE⁰DECIDUOUS TREE",
    "⁰PALM TREE⁰CACTUS⁰HOT PEPPER⁰TULIP⁰CHERRY BLOSSOM⁰ROSE⁰HIBISCUS⁰SUNFLOWER⁰BLOSSOM",
    "⁰EAR OF MAIZE²RICE⁰HERB⁰FOUR LEAF CLOVER⁰MAPLE LEAF⁰FALLEN LEAF⁰LEAF FLUTTERING IN WIND",
    "⁰MUSHROOM⁰TOMATO⁰AUBERGINE⁰GRAPES⁰MELON⁰WATERMELON⁰TANGERINE⁰LEMON⁰BANANA⁰PINEAPPLE",
    "⁰RED APPLE⁰GREEN APPLE⁰PEAR⁰PEACH⁰CHERRIES⁰STRAWBERRY⁰HAMBURGER⁰SLICE OF PIZZA",
    "⁰MEAT ON BONE⁰POULTRY LEG⁰RICE CRACKER¹BALL⁰COOKED RICE⁰CURRY AND RICE⁰STEAMING BOWL",
    "⁰SPAGHETTI⁰BREAD⁰FRENCH FRIES⁰ROASTED SWEET POTATO⁰DANGO⁰ODEN⁰SUSHI⁰FRIED SHRIMP",
    "⁰FISH CAKE WITH SWIRL DESIGN⁰SOFT ICE CREAM⁰SHAVED ICE⁰ICE CREAM⁰DOUGHNUT⁰COOKIE",
    "⁰CHOCOLATE BAR⁰CANDY⁰LOLLIPOP⁰CUSTARD⁰HONEY POT⁰SHORTCAKE⁰BENTO BOX⁰POT OF FOOD⁰COOKING",
    "⁰FORK AND KNIFE⁰TEACUP WITHOUT HANDLE⁰SAKE BOTTLE AND CUP⁰WINE GLASS⁰COCKTAIL GLASS",
    "⁰TROPICAL DRINK⁰BEER MUG⁰CLINKING BEER MUGS⁰BABY BOTTLE⁰FORK AND KNIFE WITH PLATE",
    "⁰BOTTLE WITH POPPING CORK⁰POPCORN⁰RIBBON⁰WRAPPED PRESENT⁰BIRTHDAY CAKE⁰JACK-O-LANTERN",
    "⁰CHRISTMAS TREE⁰FATHER CHRISTMAS⁰FIREWORKS⁰FIREWORK SPARKLER⁰BALLOON⁰PARTY POPPER",
    "⁰CONFETTI BALL⁰TANABATA TREE⁰CROSSED FLAGS⁰PINE DECORATION⁰JAPANESE DOLLS⁰CARP STREAMER",
    "⁰WIND CHIME⁰MOON VIEWING CEREMONY⁰SCHOOL SATCHEL⁰GRADUATION CAP",
    "⁰HEART WITH TIP ON THE LEFT⁰BOUQUET OF FLOWERS⁰MILITARY MEDAL⁰REMINDER RIBBON",
    "⁰MUSICAL KEYBOARD WITH JACKS⁰STUDIO MICROPHONE⁰LEVEL SLIDER⁰CONTROL KNOBS",
    "⁰BEAMED ASCENDING MUSICAL NOTES¹DESCENDING MUSICAL NOTES⁰FILM FRAMES⁰ADMISSION TICKETS",
    "⁰CAROUSEL HORSE⁰FERRIS WHEEL⁰ROLLER COASTER⁰FISHING POLE AND FISH⁰MICROPHONE",
    "⁰MOVIE CAMERA⁰CINEMA⁰HEADPHONE⁰ARTIST PALETTE⁰TOP HAT⁰CIRCUS TENT⁰TICKET⁰CLAPPER BOARD",
    "⁰PERFORMING ARTS⁰VIDEO GAME⁰DIRECT HIT⁰SLOT MACHINE⁰BILLIARDS⁰GAME DIE⁰BOWLING",
    "⁰FLOWER PLAYING CARDS⁰MUSICAL NOTE⁰MULTIPLE MUSICAL NOTES⁰SAXOPHONE⁰GUITAR",
    "⁰MUSICAL KEYBOARD⁰TRUMPET⁰VIOLIN⁰MUSICAL SCORE⁰RUNNING SHIRT WITH SASH",
    "⁰TENNIS RACQUET AND BALL⁰SKI AND SKI BOOT⁰BASKETBALL AND HOOP⁰CHEQUERED FLAG⁰SNOWBOARDER",
    "⁰RUNNER⁰SURFER⁰SPORTS MEDAL⁰TROPHY⁰HORSE RACING⁰AMERICAN FOOTBALL⁰RUGBY FOOTBALL⁰SWIMMER",
    "⁰WEIGHT LIFTER⁰GOLFER⁰RACING MOTORCYCLE¹CAR⁰CRICKET BAT AND BALL⁰VOLLEYBALL",
    "⁰FIELD HOCKEY STICK AND BALL⁰ICE HOCKEY STICK AND PUCK⁰TABLE TENNIS PADDLE AND BALL",
    "⁰SNOW CAPPED MOUNTAIN⁰CAMPING⁰BEACH WITH UMBRELLA⁰BUILDING CONSTRUCTION⁰HOUSE BUILDINGS",
    "⁰CITYSCAPE⁰DERELICT HOUSE BUILDING⁰CLASSICAL BUILDING⁰DESERT¹ISLAND⁰NATIONAL PARK",
    "⁰STADIUM⁰HOUSE BUILDING¹WITH GARDEN⁰OFFICE BUILDING⁰JAPANESE POST OFFICE",
    "⁰EUROPEAN POST OFFICE⁰HOSPITAL⁰BANK⁰AUTOMATED TELLER MACHINE⁰HOTEL⁰LOVE HOTEL",
    "⁰CONVENIENCE STORE⁰SCHOOL⁰DEPARTMENT STORE⁰FACTORY⁰IZAKAYA LANTERN⁰JAPANESE CASTLE",
    "⁰EUROPEAN CASTLE⁰WHITE PENNANT⁰BLACK PENNANT⁰WAVING WHITE FLAG¹BLACK FLAG⁰ROSETTE",
    "⁰BLACK ROSETTE⁰LABEL⁰BADMINTON RACQUET AND SHUTTLECOCK⁰BOW AND ARROW⁰AMPHORA",
    "⁰EMOJI MODIFIER FITZPATRICK TYPE-1-2³TYPE-3³TYPE-4³TYPE-5³TYPE-6⁰RAT⁰MOUSE⁰OX",
    "⁰WATER BUFFALO⁰COW⁰TIGER⁰LEOPARD⁰RABBIT⁰CAT⁰DRAGON⁰CROCODILE⁰WHALE⁰SNAIL⁰SNAKE⁰HORSE⁰RAM",
    "⁰GOAT⁰SHEEP⁰MONKEY⁰ROOSTER⁰CHICKEN⁰DOG⁰PIG⁰BOAR⁰ELEPHANT⁰OCTOPUS⁰SPIRAL SHELL⁰BUG⁰ANT",
    "⁰HONEYBEE⁰LADY BEETLE⁰FISH⁰TROPICAL FISH⁰BLOWFISH⁰TURTLE⁰HATCHING CHICK⁰BABY CHICK",
    "⁰FRONT-FACING BABY CHICK⁰BIRD⁰PENGUIN⁰KOALA⁰POODLE⁰DROMEDARY CAMEL⁰BACTRIAN CAMEL",
    "⁰DOLPHIN⁰MOUSE FACE⁰COW FACE⁰TIGER FACE⁰RABBIT FACE⁰CAT FACE⁰DRAGON FACE⁰SPOUTING WHALE",
    "⁰HORSE FACE⁰MONKEY FACE⁰DOG FACE⁰PIG FACE⁰FROG FACE⁰HAMSTER FACE⁰WOLF FACE⁰BEAR FACE",
    "⁰PANDA FACE⁰PIG NOSE⁰PAW PRINTS⁰CHIPMUNK⁰EYES⁰EYE⁰EAR⁰NOSE⁰MOUTH⁰TONGUE",
    "⁰WHITE UP POINTING BACKHAND INDEX¹DOWN POINTING BACKHAND INDEX",
    "¹LEFT POINTING BACKHAND INDEX¹RIGHT POINTING BACKHAND INDEX⁰FISTED HAND SIGN",
    "⁰WAVING HAND SIGN⁰OK HAND SIGN⁰THUMBS UP SIGN¹DOWN SIGN⁰CLAPPING HANDS SIGN",
    "⁰OPEN HANDS SIGN⁰CROWN⁰WOMANS HAT⁰EYEGLASSES⁰NECKTIE⁰T-SHIRT⁰JEANS⁰DRESS⁰KIMONO⁰BIKINI",
    "⁰WOMANS CLOTHES⁰PURSE⁰HANDBAG⁰POUCH⁰MANS SHOE⁰ATHLETIC SHOE⁰HIGH-HEELED SHOE",
    "⁰WOMANS SANDAL¹BOOTS⁰FOOTPRINTS⁰BUST IN SILHOUETTE⁰BUSTS IN SILHOUETTE⁰BOY⁰GIRL⁰MAN",
    "⁰WOMAN⁰FAMILY⁰MAN AND WOMAN HOLDING HANDS⁰TWO MEN HOLDING HANDS¹WOMEN HOLDING HANDS",
    "⁰POLICE OFFICER⁰WOMAN WITH BUNNY EARS⁰BRIDE WITH VEIL⁰PERSON WITH BLOND HAIR",
    "⁰MAN WITH GUA PI MAO²TURBAN⁰OLDER MAN¹WOMAN⁰BABY⁰CONSTRUCTION WORKER⁰PRINCESS",
    "⁰JAPANESE OGRE¹GOBLIN⁰GHOST⁰BABY ANGEL⁰EXTRATERRESTRIAL ALIEN⁰ALIEN MONSTER⁰IMP⁰SKULL",
    "⁰INFORMATION DESK PERSON⁰GUARDSMAN⁰DANCER⁰LIPSTICK⁰NAIL POLISH⁰FACE MASSAGE⁰HAIRCUT",
    "⁰BARBER POLE⁰SYRINGE⁰PILL⁰KISS MARK⁰LOVE LETTER⁰RING⁰GEM STONE⁰KISS⁰BOUQUET",
    "⁰COUPLE WITH HEART⁰WEDDING⁰BEATING HEART⁰BROKEN HEART⁰TWO HEARTS⁰SPARKLING HEART",
    "⁰GROWING HEART⁰HEART WITH ARROW⁰BLUE HEART⁰GREEN HEART⁰YELLOW HEART⁰PURPLE HEART",
    "⁰HEART WITH RIBBON⁰REVOLVING HEARTS⁰HEART DECORATION⁰DIAMOND SHAPE WITH A DOT INSIDE",
    "⁰ELECTRIC LIGHT BULB⁰ANGER SYMBOL⁰BOMB⁰SLEEPING SYMBOL⁰COLLISION SYMBOL",
    "⁰SPLASHING SWEAT SYMBOL⁰DROPLET⁰DASH SYMBOL⁰PILE OF POO⁰FLEXED BICEPS⁰DIZZY SYMBOL",
    "⁰SPEECH BALLOON⁰THOUGHT BALLOON⁰WHITE FLOWER⁰HUNDRED POINTS SYMBOL⁰MONEY BAG",
    "⁰CURRENCY EXCHANGE⁰HEAVY DOLLAR SIGN⁰CREDIT CARD⁰BANKNOTE WITH YEN SIGN²DOLLAR SIGN",
    "²EURO SIGN²POUND SIGN⁰MONEY WITH WINGS⁰CHART WITH UPWARDS TREND AND YEN SIGN⁰SEAT",
    "⁰PERSONAL COMPUTER⁰BRIEFCASE⁰MINIDISC⁰FLOPPY DISK⁰OPTICAL DISC⁰DVD⁰FILE FOLDER",
    "⁰OPEN FILE FOLDER⁰PAGE WITH CURL¹FACING UP⁰CALENDAR⁰TEAR-OFF CALENDAR⁰CARD INDEX",
    "⁰CHART WITH UPWARDS TREND²DOWNWARDS TREND⁰BAR CHART⁰CLIPBOARD⁰PUSHPIN⁰ROUND PUSHPIN",
    "⁰PAPERCLIP⁰STRAIGHT RULER⁰TRIANGULAR RULER⁰BOOKMARK TABS⁰LEDGER⁰NOTEBOOK",
    "¹WITH DECORATIVE COVER⁰CLOSED BOOK⁰OPEN BOOK⁰GREEN BOOK⁰BLUE BOOK⁰ORANGE BOOK⁰BOOKS",
    "⁰NAME BADGE⁰SCROLL⁰MEMO⁰TELEPHONE RECEIVER⁰PAGER⁰FAX MACHINE⁰SATELLITE ANTENNA",
    "⁰PUBLIC ADDRESS LOUDSPEAKER⁰CHEERING MEGAPHONE⁰OUTBOX TRAY⁰INBOX TRAY⁰PACKAGE",
    "⁰E-MAIL SYMBOL⁰INCOMING ENVELOPE⁰ENVELOPE WITH DOWNWARDS ARROW ABOVE",
    "⁰CLOSED MAILBOX WITH LOWERED FLAG³RAISED FLAG⁰OPEN MAILBOX WITH RAISED FLAG³LOWERED FLAG",
    "⁰POSTBOX⁰POSTAL HORN⁰NEWSPAPER⁰MOBILE PHONE²WITH RIGHTWARDS ARROW AT LEFT⁰VIBRATION MODE",
    "⁰MOBILE PHONE OFF⁰NO MOBILE PHONES⁰ANTENNA WITH BARS⁰CAMERA¹WITH FLASH⁰VIDEO CAMERA",
    "⁰TELEVISION⁰RADIO⁰VIDEOCASSETTE⁰FILM PROJECTOR⁰PORTABLE STEREO⁰PRAYER BEADS",
    "⁰TWISTED RIGHTWARDS ARROWS⁰CLOCKWISE RIGHTWARDS AND LEFTWARDS OPEN CIRCLE ARROWS",
    "⁷WITH CIRCLED ONE OVERLAY¹DOWNWARDS AND UPWARDS OPEN CIRCLE ARROWS",
    "⁰ANTICLOCKWISE DOWNWARDS AND UPWARDS OPEN CIRCLE ARROWS⁰LOW BRIGHTNESS SYMBOL",
    "⁰HIGH BRIGHTNESS SYMBOL⁰SPEAKER WITH CANCELLATION STROKE⁰SPEAKER¹WITH ONE SOUND WAVE",
    "²THREE SOUND WAVES⁰BATTERY⁰ELECTRIC PLUG⁰LEFT-POINTING MAGNIFYING GLASS",
    "⁰RIGHT-POINTING MAGNIFYING GLASS⁰LOCK WITH INK PEN⁰CLOSED LOCK WITH KEY⁰KEY⁰LOCK",
    "⁰OPEN LOCK⁰BELL¹WITH CANCELLATION STROKE⁰BOOKMARK⁰LINK SYMBOL⁰RADIO BUTTON",
    "⁰BACK WITH LEFTWARDS ARROW ABOVE⁰END WITH LEFTWARDS ARROW ABOVE",
    "⁰ON WITH EXCLAMATION MARK WITH LEFT RIGHT ARROW ABOVE⁰SOON WITH RIGHTWARDS ARROW ABOVE",
    "⁰TOP WITH UPWARDS ARROW ABOVE⁰NO ONE UNDER EIGHTEEN SYMBOL⁰KEYCAP TEN",
    "⁰INPUT SYMBOL FOR LATIN CAPITAL LETTERS⁴SMALL LETTERS³NUMBERS³SYMBOLS³LATIN LETTERS⁰FIRE",
    "⁰ELECTRIC TORCH⁰WRENCH⁰HAMMER⁰NUT AND BOLT⁰HOCHO⁰PISTOL⁰MICROSCOPE⁰TELESCOPE",
    "⁰CRYSTAL BALL⁰SIX POINTED STAR WITH MIDDLE DOT⁰JAPANESE SYMBOL FOR BEGINNER",
    "⁰TRIDENT EMBLEM⁰BLACK SQUARE BUTTON⁰WHITE SQUARE BUTTON⁰LARGE RED CIRCLE¹BLUE CIRCLE",
    "¹ORANGE DIAMOND¹BLUE DIAMOND⁰SMALL ORANGE DIAMOND¹BLUE DIAMOND⁰UP-POINTING RED TRIANGLE",
    "⁰DOWN-POINTING RED TRIANGLE⁰UP-POINTING SMALL RED TRIANGLE",
    "⁰DOWN-POINTING SMALL RED TRIANGLE⁰LOWER RIGHT SHADOWED WHITE CIRCLE",
    "⁰UPPER RIGHT SHADOWED WHITE CIRCLE⁰CIRCLED CROSS POMMEE",
    "⁰CROSS POMMEE WITH HALF-CIRCLE BELOW¹POMMEE⁰NOTCHED LEFT SEMICIRCLE WITH THREE DOTS",
    "¹RIGHT SEMICIRCLE WITH THREE DOTS⁰SYMBOL FOR MARKS CHAPTER⁰WHITE LATIN CROSS",
    "⁰HEAVY LATIN CROSS⁰CELTIC CROSS⁰OM SYMBOL⁰DOVE OF PEACE⁰KAABA⁰MOSQUE⁰SYNAGOGUE",
    "⁰MENORAH WITH NINE BRANCHES⁰BOWL OF HYGIEIA⁰CLOCK FACE ONE OCLOCK²TWO OCLOCK",
    "²THREE OCLOCK²FOUR OCLOCK²FIVE OCLOCK²SIX OCLOCK²SEVEN OCLOCK²EIGHT OCLOCK²NINE OCLOCK",
    "²TEN OCLOCK²ELEVEN OCLOCK²TWELVE OCLOCK²ONE-THIRTY²TWO-THIRTY²THREE-THIRTY²FOUR-THIRTY",
    "²FIVE-THIRTY²SIX-THIRTY²SEVEN-THIRTY²EIGHT-THIRTY²NINE-THIRTY²TEN-THIRTY²ELEVEN-THIRTY",
    "²TWELVE-THIRTY⁰RIGHT SPEAKER²WITH ONE SOUND WAVE³THREE SOUND WAVES⁰BULLHORN",
    "¹WITH SOUND WAVES⁰RINGING BELL⁰BOOK⁰CANDLE⁰MANTELPIECE CLOCK⁰BLACK SKULL AND CROSSBONES",
    "⁰NO PIRACY⁰HOLE⁰MAN IN BUSINESS SUIT LEVITATING⁰SLEUTH OR SPY⁰DARK SUNGLASSES⁰SPIDER¹WEB",
    "⁰JOYSTICK⁰MAN DANCING⁰LEFT HAND TELEPHONE RECEIVER⁰TELEPHONE RECEIVER WITH PAGE",
    "⁰RIGHT HAND TELEPHONE RECEIVER⁰WHITE TOUCHTONE TELEPHONE⁰BLACK TOUCHTONE TELEPHONE",
    "⁰TELEPHONE ON TOP OF MODEM⁰CLAMSHELL MOBILE PHONE⁰BACK OF ENVELOPE⁰STAMPED ENVELOPE",
    "⁰ENVELOPE WITH LIGHTNING⁰FLYING ENVELOPE⁰PEN OVER STAMPED ENVELOPE⁰LINKED PAPERCLIPS",
    "⁰BLACK PUSHPIN⁰LOWER LEFT PENCIL²BALLPOINT PEN²FOUNTAIN PEN²PAINTBRUSH²CRAYON",
    "⁰LEFT WRITING HAND⁰TURNED OK HAND SIGN⁰RAISED HAND WITH FINGERS SPLAYED",
    "⁰REVERSED RAISED HAND WITH FINGERS SPLAYED¹THUMBS UP SIGN²DOWN SIGN¹VICTORY HAND",
    "¹HAND WITH MIDDLE FINGER EXTENDED⁰RAISED HAND WITH PART BETWEEN MIDDLE AND RING FINGERS",
    "⁰WHITE DOWN POINTING LEFT HAND INDEX⁰SIDEWAYS WHITE LEFT POINTING INDEX",
    "²RIGHT POINTING INDEX¹BLACK LEFT POINTING INDEX²RIGHT POINTING INDEX",
    "⁰BLACK LEFT POINTING BACKHAND INDEX¹RIGHT POINTING BACKHAND INDEX",
    "⁰SIDEWAYS WHITE UP POINTING INDEX²DOWN POINTING INDEX¹BLACK UP POINTING INDEX",
    "²DOWN POINTING INDEX⁰BLACK UP POINTING BACKHAND INDEX¹DOWN POINTING BACKHAND INDEX¹HEART",
    "⁰DESKTOP COMPUTER⁰KEYBOARD AND MOUSE⁰THREE NETWORKED COMPUTERS⁰PRINTER⁰POCKET CALCULATOR",
    "⁰BLACK HARD SHELL FLOPPY DISK⁰WHITE HARD SHELL FLOPPY DISK⁰SOFT SHELL FLOPPY DISK",
    "⁰TAPE CARTRIDGE⁰WIRED KEYBOARD⁰ONE BUTTON MOUSE⁰TWO BUTTON MOUSE⁰THREE BUTTON MOUSE",
    "⁰TRACKBALL⁰OLD PERSONAL COMPUTER⁰HARD DISK⁰SCREEN⁰PRINTER ICON⁰FAX ICON",
    "⁰OPTICAL DISC ICON⁰DOCUMENT WITH TEXT³AND PICTURE²PICTURE⁰FRAME WITH PICTURE²TILES²AN X",
    "⁰BLACK FOLDER⁰FOLDER⁰OPEN FOLDER⁰CARD INDEX DIVIDERS¹FILE BOX⁰FILE CABINET⁰EMPTY NOTE",
    "²PAGE²PAD⁰NOTE¹PAGE¹PAD⁰EMPTY DOCUMENT¹PAGE¹PAGES⁰DOCUMENT⁰PAGE⁰PAGES⁰WASTEBASKET",
    "⁰SPIRAL NOTE PAD¹CALENDAR PAD⁰DESKTOP WINDOW⁰MINIMIZE⁰MAXIMIZE⁰OVERLAP",
    "⁰CLOCKWISE RIGHT AND LEFT SEMICIRCLE ARROWS⁰CANCELLATION X⁰INCREASE FONT SIZE SYMBOL",
    "⁰DECREASE FONT SIZE SYMBOL⁰COMPRESSION⁰OLD KEY⁰ROLLED-UP NEWSPAPER",
    "⁰PAGE WITH CIRCLED TEXT⁰STOCK CHART⁰DAGGER KNIFE⁰LIPS⁰SPEAKING HEAD IN SILHOUETTE",
    "⁰THREE RAYS ABOVE²BELOW²LEFT²RIGHT⁰LEFT SPEECH BUBBLE⁰RIGHT SPEECH BUBBLE",
    "⁰TWO SPEECH BUBBLES⁰THREE SPEECH BUBBLES⁰LEFT THOUGHT BUBBLE⁰RIGHT THOUGHT BUBBLE",
    "⁰LEFT ANGER BUBBLE⁰RIGHT ANGER BUBBLE⁰MOOD BUBBLE⁰LIGHTNING MOOD BUBBLE¹MOOD",
    "⁰BALLOT BOX WITH BALLOT¹SCRIPT X¹BOX WITH SCRIPT X¹BOLD SCRIPT X¹BOX WITH BOLD SCRIPT X",
    "⁰LIGHT CHECK MARK⁰BALLOT BOX WITH BOLD CHECK⁰WORLD MAP⁰MOUNT FUJI⁰TOKYO TOWER",
    "⁰STATUE OF LIBERTY⁰SILHOUETTE OF JAPAN⁰MOYAI⁰GRINNING FACE²WITH SMILING EYES",
    "⁰FACE WITH TEARS OF JOY⁰SMILING FACE WITH OPEN MOUTH⁵AND SMILING EYES⁶COLD SWEAT",
    "⁶TIGHTLY-CLOSED EYES³HALO³HORNS⁰WINKING FACE⁰SMILING FACE WITH SMILING EYES",
    "⁰FACE SAVOURING DELICIOUS FOOD⁰RELIEVED FACE⁰SMILING FACE WITH HEART-SHAPED EYES",
    "³SUNGLASSES⁰SMIRKING FACE⁰NEUTRAL FACE⁰EXPRESSIONLESS FACE⁰UNAMUSED FACE",
    "⁰FACE WITH COLD SWEAT⁰PENSIVE FACE⁰CONFUSED FACE⁰CONFOUNDED FACE⁰KISSING FACE",
    "⁰FACE THROWING A KISS⁰KISSING FACE WITH SMILING EYES³CLOSED EYES",
    "⁰FACE WITH STUCK-OUT TONGUE⁴AND WINKING EYE⁵TIGHTLY-CLOSED EYES⁰DISAPPOINTED FACE",
    "⁰WORRIED FACE⁰ANGRY FACE⁰POUTING FACE⁰CRYING FACE⁰PERSEVERING FACE",
    "⁰FACE WITH LOOK OF TRIUMPH⁰DISAPPOINTED BUT RELIEVED FACE⁰FROWNING FACE WITH OPEN MOUTH",
    "⁰ANGUISHED FACE⁰FEARFUL FACE⁰WEARY FACE⁰SLEEPY FACE⁰TIRED FACE⁰GRIMACING FACE",
    "⁰LOUDLY CRYING FACE⁰FACE WITH OPEN MOUTH⁰HUSHED FACE⁰FACE WITH OPEN MOUTH AND COLD SWEAT",
    "¹SCREAMING IN FEAR⁰ASTONISHED FACE⁰FLUSHED FACE⁰SLEEPING FACE⁰DIZZY FACE",
    "⁰FACE WITHOUT MOUTH¹WITH MEDICAL MASK⁰GRINNING CAT FACE WITH SMILING EYES",
    "⁰CAT FACE WITH TEARS OF JOY⁰SMILING CAT FACE WITH OPEN MOUTH⁴HEART-SHAPED EYES",
    "⁰CAT FACE WITH WRY SMILE⁰KISSING CAT FACE WITH CLOSED EYES⁰POUTING CAT FACE",
    "⁰CRYING CAT FACE⁰WEARY CAT FACE⁰SLIGHTLY FROWNING FACE¹SMILING FACE⁰UPSIDE-DOWN FACE",
    "⁰FACE WITH ROLLING EYES²NO GOOD GESTURE²OK GESTURE⁰PERSON BOWING DEEPLY",
    "⁰SEE-NO-EVIL MONKEY⁰HEAR-NO-EVIL MONKEY⁰SPEAK-NO-EVIL MONKEY",
    "⁰HAPPY PERSON RAISING ONE HAND⁰PERSON RAISING BOTH HANDS IN CELEBRATION¹FROWNING",
    "¹WITH POUTING FACE²FOLDED HANDS⁰NORTH WEST POINTING LEAF⁰SOUTH WEST POINTING LEAF",
    "⁰NORTH EAST POINTING LEAF⁰SOUTH EAST POINTING LEAF⁰TURNED NORTH WEST POINTING LEAF",
    "¹SOUTH WEST POINTING LEAF¹NORTH EAST POINTING LEAF¹SOUTH EAST POINTING LEAF",
    "⁰NORTH WEST POINTING VINE LEAF⁰SOUTH WEST POINTING VINE LEAF",
    "⁰NORTH EAST POINTING VINE LEAF⁰SOUTH EAST POINTING VINE LEAF",
    "⁰HEAVY NORTH WEST POINTING VINE LEAF¹SOUTH WEST POINTING VINE LEAF",
    "¹NORTH EAST POINTING VINE LEAF¹SOUTH EAST POINTING VINE LEAF⁰NORTH WEST POINTING BUD",
    "⁰SOUTH WEST POINTING BUD⁰NORTH EAST POINTING BUD⁰SOUTH EAST POINTING BUD",
    "⁰HEAVY NORTH WEST POINTING BUD¹SOUTH WEST POINTING BUD¹NORTH EAST POINTING BUD",
    "¹SOUTH EAST POINTING BUD⁰HOLLOW QUILT SQUARE ORNAMENT⁴IN BLACK SQUARE",
    "⁰SOLID QUILT SQUARE ORNAMENT⁴IN BLACK SQUARE⁰LEFTWARDS ROCKET⁰UPWARDS ROCKET",
    "⁰RIGHTWARDS ROCKET⁰DOWNWARDS ROCKET⁰SCRIPT LIGATURE ET ORNAMENT",
    "⁰HEAVY SCRIPT LIGATURE ET ORNAMENT⁰LIGATURE OPEN ET ORNAMENT",
    "⁰HEAVY LIGATURE OPEN ET ORNAMENT¹AMPERSAND ORNAMENT⁰SWASH AMPERSAND ORNAMENT",
    "⁰SANS-SERIF HEAVY DOUBLE TURNED COMMA QUOTATION MARK ORNAMENT",
    "³COMMA QUOTATION MARK ORNAMENT²LOW DOUBLE COMMA QUOTATION MARK ORNAMENT",
    "⁰HEAVY INTERROBANG ORNAMENT⁰SANS-SERIF INTERROBANG ORNAMENT",
    "⁰HEAVY SANS-SERIF INTERROBANG ORNAMENT⁰VERY HEAVY SOLIDUS²REVERSE SOLIDUS⁰CHECKER BOARD",
    "⁰REVERSE CHECKER BOARD⁰ROCKET⁰HELICOPTER⁰STEAM LOCOMOTIVE⁰RAILWAY CAR⁰HIGH-SPEED TRAIN",
    "²WITH BULLET NOSE⁰TRAIN⁰METRO⁰LIGHT RAIL⁰STATION⁰TRAM¹CAR⁰BUS⁰ONCOMING BUS⁰TROLLEYBUS",
    "⁰BUS STOP⁰MINIBUS⁰AMBULANCE⁰FIRE ENGINE⁰POLICE CAR⁰ONCOMING POLICE CAR⁰TAXI",
    "⁰ONCOMING TAXI⁰AUTOMOBILE⁰ONCOMING AUTOMOBILE⁰RECREATIONAL VEHICLE⁰DELIVERY TRUCK",
    "⁰ARTICULATED LORRY⁰TRACTOR⁰MONORAIL⁰MOUNTAIN RAILWAY⁰SUSPENSION RAILWAY",
    "⁰MOUNTAIN CABLEWAY⁰AERIAL TRAMWAY⁰SHIP⁰ROWBOAT⁰SPEEDBOAT⁰HORIZONTAL TRAFFIC LIGHT",
    "⁰VERTICAL TRAFFIC LIGHT⁰CONSTRUCTION SIGN⁰POLICE CARS REVOLVING LIGHT",
    "⁰TRIANGULAR FLAG ON POST⁰DOOR⁰NO ENTRY SIGN⁰SMOKING SYMBOL⁰NO SMOKING SYMBOL",
    "⁰PUT LITTER IN ITS PLACE SYMBOL⁰DO NOT LITTER SYMBOL⁰POTABLE WATER SYMBOL",
    "⁰NON-POTABLE WATER SYMBOL⁰BICYCLE⁰NO BICYCLES⁰BICYCLIST⁰MOUNTAIN BICYCLIST⁰PEDESTRIAN",
    "⁰NO PEDESTRIANS⁰CHILDREN CROSSING⁰MENS SYMBOL⁰WOMENS SYMBOL⁰RESTROOM⁰BABY SYMBOL⁰TOILET",
    "⁰WATER CLOSET⁰SHOWER⁰BATH⁰BATHTUB⁰PASSPORT CONTROL⁰CUSTOMS⁰BAGGAGE CLAIM⁰LEFT LUGGAGE",
    "⁰TRIANGLE WITH ROUNDED CORNERS⁰PROHIBITED SIGN⁰CIRCLED INFORMATION SOURCE⁰BOYS SYMBOL",
    "⁰GIRLS SYMBOL⁰COUCH AND LAMP⁰SLEEPING ACCOMMODATION⁰SHOPPING BAGS⁰BELLHOP BELL⁰BED",
    "⁰PLACE OF WORSHIP⁰OCTAGONAL SIGN⁰SHOPPING TROLLEY⁰STUPA⁰PAGODA⁰HINDU TEMPLE⁰HUT⁰ELEVATOR"]⟩,
  ⟨0x1f6dd, [
    "⁰PLAYGROUND SLIDE⁰WHEEL⁰RING BUOY⁰HAMMER AND WRENCH⁰SHIELD⁰OIL DRUM⁰MOTORWAY",
    "⁰RAILWAY TRACK⁰MOTOR BOAT⁰UP-POINTING MILITARY AIRPLANE¹AIRPLANE¹SMALL AIRPLANE",
    "⁰SMALL AIRPLANE⁰NORTHEAST-POINTING AIRPLANE⁰AIRPLANE DEPARTURE¹ARRIVING"]⟩,
  ⟨0x1f6f0, [
    "⁰SATELLITE⁰ONCOMING FIRE ENGINE⁰DIESEL LOCOMOTIVE⁰PASSENGER SHIP⁰SCOOTER⁰MOTOR SCOOTER",
    "⁰CANOE⁰SLED⁰FLYING SAUCER⁰SKATEBOARD⁰AUTO RICKSHAW⁰PICKUP TRUCK⁰ROLLER SKATE"]⟩,
  ⟨0x1f700, [
    "⁰ALCHEMICAL SYMBOL FOR QUINTESSENCE³AIR³FIRE³EARTH³WATER³AQUAFORTIS³AQUA REGIA⁴REGIA-2",
    "⁴VITAE⁴VITAE-2³VINEGAR³VINEGAR-2³VINEGAR-3³SULFUR³PHILOSOPHERS SULFUR³BLACK SULFUR",
    "³MERCURY SUBLIMATE⁴SUBLIMATE-2⁴SUBLIMATE-3³CINNABAR³SALT³NITRE³VITRIOL³VITRIOL-2",
    "³ROCK SALT⁴SALT-2³GOLD³SILVER³IRON ORE⁴ORE-2³CROCUS OF IRON³REGULUS OF IRON³COPPER ORE",
    "³IRON-COPPER ORE³SUBLIMATE OF COPPER³CROCUS OF COPPER⁵COPPER-2³COPPER ANTIMONIATE",
    "³SALT OF COPPER ANTIMONIATE³SUBLIMATE OF SALT OF COPPER³VERDIGRIS³TIN ORE³LEAD ORE",
    "³ANTIMONY ORE³SUBLIMATE OF ANTIMONY³SALT OF ANTIMONY³SUBLIMATE OF SALT OF ANTIMONY",
    "³VINEGAR OF ANTIMONY³REGULUS OF ANTIMONY⁵ANTIMONY-2³REGULUS³REGULUS-2³REGULUS-3",
    "³REGULUS-4³ALKALI³ALKALI-2³MARCASITE³SAL-AMMONIAC³ARSENIC³REALGAR³REALGAR-2³AURIPIGMENT",
    "³BISMUTH ORE³TARTAR³TARTAR-2³QUICK LIME³BORAX³BORAX-2³BORAX-3³ALUM³OIL³SPIRIT³TINCTURE",
    "³GUM³WAX³POWDER³CALX³TUTTY³CAPUT MORTUUM³SCEPTER OF JOVE³CADUCEUS³TRIDENT",
    "³STARRED TRIDENT³LODESTONE³SOAP³URINE³HORSE DUNG³ASHES³POT ASHES³BRICK³POWDERED BRICK",
    "³AMALGAM³STRATUM SUPER STRATUM⁵STRATUM-2³SUBLIMATION³PRECIPITATE³DISTILL³DISSOLVE",
    "³DISSOLVE-2³PURIFY³PUTREFACTION³CRUCIBLE³CRUCIBLE-2³CRUCIBLE-3³CRUCIBLE-4³CRUCIBLE-5",
    "³ALEMBIC³BATH OF MARY⁵VAPOURS³RETORT³HOUR³NIGHT³DAY-NIGHT³MONTH³HALF DRAM⁴OUNCE"]⟩,
  ⟨0x1f780, [
    "⁰BLACK LEFT-POINTING ISOSCELES RIGHT TRIANGLE¹UP-POINTING ISOSCELES RIGHT TRIANGLE",
    "¹RIGHT-POINTING ISOSCELES RIGHT TRIANGLE¹DOWN-POINTING ISOSCELES RIGHT TRIANGLE",
    "¹SLIGHTLY SMALL CIRCLE⁰MEDIUM BOLD WHITE CIRCLE⁰BOLD WHITE CIRCLE⁰HEAVY WHITE CIRCLE",
    "⁰VERY HEAVY WHITE CIRCLE⁰EXTREMELY HEAVY WHITE CIRCLE",
    "⁰WHITE CIRCLE CONTAINING BLACK SMALL CIRCLE⁰ROUND TARGET⁰BLACK TINY SQUARE",
    "¹SLIGHTLY SMALL SQUARE⁰LIGHT WHITE SQUARE⁰MEDIUM WHITE SQUARE⁰BOLD WHITE SQUARE",
    "⁰HEAVY WHITE SQUARE⁰VERY HEAVY WHITE SQUARE⁰EXTREMELY HEAVY WHITE SQUARE",
    "⁰WHITE SQUARE CONTAINING BLACK VERY SMALL SQUARE⁴MEDIUM SQUARE⁰SQUARE TARGET",
    "⁰BLACK TINY DIAMOND¹VERY SMALL DIAMOND¹MEDIUM SMALL DIAMOND",
    "⁰WHITE DIAMOND CONTAINING BLACK VERY SMALL DIAMOND⁴MEDIUM DIAMOND⁰DIAMOND TARGET",
    "⁰BLACK TINY LOZENGE¹VERY SMALL LOZENGE¹MEDIUM SMALL LOZENGE",
    "⁰WHITE LOZENGE CONTAINING BLACK SMALL LOZENGE⁰THIN GREEK CROSS⁰LIGHT GREEK CROSS",
    "⁰MEDIUM GREEK CROSS⁰BOLD GREEK CROSS⁰VERY BOLD GREEK CROSS¹HEAVY GREEK CROSS",
    "⁰EXTREMELY HEAVY GREEK CROSS⁰THIN SALTIRE⁰LIGHT SALTIRE⁰MEDIUM SALTIRE⁰BOLD SALTIRE",
    "⁰HEAVY SALTIRE⁰VERY HEAVY SALTIRE⁰EXTREMELY HEAVY SALTIRE⁰LIGHT FIVE SPOKED ASTERISK",
    "⁰MEDIUM FIVE SPOKED ASTERISK⁰BOLD FIVE SPOKED ASTERISK⁰HEAVY FIVE SPOKED ASTERISK",
    "⁰VERY HEAVY FIVE SPOKED ASTERISK⁰EXTREMELY HEAVY FIVE SPOKED ASTERISK",
    "⁰LIGHT SIX SPOKED ASTERISK⁰MEDIUM SIX SPOKED ASTERISK⁰BOLD SIX SPOKED ASTERISK",
    "⁰HEAVY SIX SPOKED ASTERISK⁰VERY HEAVY SIX SPOKED ASTERISK",
    "⁰EXTREMELY HEAVY SIX SPOKED ASTERISK⁰LIGHT EIGHT SPOKED ASTERISK",
    "⁰MEDIUM EIGHT SPOKED ASTERISK⁰BOLD EIGHT SPOKED ASTERISK⁰HEAVY EIGHT SPOKED ASTERISK",
    "⁰VERY HEAVY EIGHT SPOKED ASTERISK⁰LIGHT THREE POINTED BLACK STAR",
    "⁰MEDIUM THREE POINTED BLACK STAR⁰THREE POINTED BLACK STAR",
    "⁰MEDIUM THREE POINTED PINWHEEL STAR⁰LIGHT FOUR POINTED BLACK STAR",
    "⁰MEDIUM FOUR POINTED BLACK STAR⁰FOUR POINTED BLACK STAR",
    "⁰MEDIUM FOUR POINTED PINWHEEL STAR⁰REVERSE LIGHT FOUR POINTED PINWHEEL STAR",
    "⁰LIGHT FIVE POINTED BLACK STAR⁰HEAVY FIVE POINTED BLACK STAR",
    "⁰MEDIUM SIX POINTED BLACK STAR⁰HEAVY SIX POINTED BLACK STAR⁰SIX POINTED PINWHEEL STAR",
    "⁰MEDIUM EIGHT POINTED BLACK STAR⁰HEAVY EIGHT POINTED BLACK STAR",
    "⁰VERY HEAVY EIGHT POINTED BLACK STAR⁰HEAVY EIGHT POINTED PINWHEEL STAR",
    "⁰LIGHT TWELVE POINTED BLACK STAR⁰HEAVY TWELVE POINTED BLACK STAR³PINWHEEL STAR",
    "⁰CIRCLED TRIANGLE⁰NEGATIVE CIRCLED TRIANGLE⁰CIRCLED SQUARE⁰NEGATIVE CIRCLED SQUARE"]⟩,
  ⟨0x1f7e0, [
    "⁰LARGE ORANGE CIRCLE¹YELLOW CIRCLE¹GREEN CIRCLE¹PURPLE CIRCLE¹BROWN CIRCLE¹RED SQUARE",
    "¹BLUE SQUARE¹ORANGE SQUARE¹YELLOW SQUARE¹GREEN SQUARE¹PURPLE SQUARE¹BROWN SQUARE"]⟩,
  ⟨0x1f7f0, ["⁰HEAVY EQUALS SIGN"]⟩,
  ⟨0x1f800, [
    "⁰LEFTWARDS ARROW WITH SMALL TRIANGLE ARROWHEAD",
    "⁰UPWARDS ARROW WITH SMALL TRIANGLE ARROWHEAD",
    "⁰RIGHTWARDS ARROW WITH SMALL TRIANGLE ARROWHEAD",
    "⁰DOWNWARDS ARROW WITH SMALL TRIANGLE ARROWHEAD",
    "⁰LEFTWARDS ARROW WITH MEDIUM TRIANGLE ARROWHEAD",
    "⁰UPWARDS ARROW WITH MEDIUM TRIANGLE ARROWHEAD",
    "⁰RIGHTWARDS ARROW WITH MEDIUM TRIANGLE ARROWHEAD",
    "⁰DOWNWARDS ARROW WITH MEDIUM TRIANGLE ARROWHEAD",
    "⁰LEFTWARDS ARROW WITH LARGE TRIANGLE ARROWHEAD",
    "⁰UPWARDS ARROW WITH LARGE TRIANGLE ARROWHEAD",
    "⁰RIGHTWARDS ARROW WITH LARGE TRIANGLE ARROWHEAD",
    "⁰DOWNWARDS ARROW WITH LARGE TRIANGLE ARROWHEAD"]⟩,
  ⟨0x1f810, [
    "⁰LEFTWARDS ARROW WITH SMALL EQUILATERAL ARROWHEAD",
    "⁰UPWARDS ARROW WITH SMALL EQUILATERAL ARROWHEAD",
    "⁰RIGHTWARDS ARROW WITH SMALL EQUILATERAL ARROWHEAD",
    "⁰DOWNWARDS ARROW WITH SMALL EQUILATERAL ARROWHEAD",
    "⁰LEFTWARDS ARROW WITH EQUILATERAL ARROWHEAD⁰UPWARDS ARROW WITH EQUILATERAL ARROWHEAD",
    "⁰RIGHTWARDS ARROW WITH EQUILATERAL ARROWHEAD⁰DOWNWARDS ARROW WITH EQUILATERAL ARROWHEAD",
    "⁰HEAVY LEFTWARDS ARROW WITH EQUILATERAL ARROWHEAD",
    "¹UPWARDS ARROW WITH EQUILATERAL ARROWHEAD¹RIGHTWARDS ARROW WITH EQUILATERAL ARROWHEAD",
    "¹DOWNWARDS ARROW WITH EQUILATERAL ARROWHEAD",
    "¹LEFTWARDS ARROW WITH LARGE EQUILATERAL ARROWHEAD",
    "¹UPWARDS ARROW WITH LARGE EQUILATERAL ARROWHEAD",
    "¹RIGHTWARDS ARROW WITH LARGE EQUILATERAL ARROWHEAD",
    "¹DOWNWARDS ARROW WITH LARGE EQUILATERAL ARROWHEAD",
    "⁰LEFTWARDS TRIANGLE-HEADED ARROW WITH NARROW SHAFT",
    "⁰UPWARDS TRIANGLE-HEADED ARROW WITH NARROW SHAFT",
    "⁰RIGHTWARDS TRIANGLE-HEADED ARROW WITH NARROW SHAFT",
    "⁰DOWNWARDS TRIANGLE-HEADED ARROW WITH NARROW SHAFT",
    "⁰LEFTWARDS TRIANGLE-HEADED ARROW WITH MEDIUM SHAFT",
    "⁰UPWARDS TRIANGLE-HEADED ARROW WITH MEDIUM SHAFT",
    "⁰RIGHTWARDS TRIANGLE-HEADED ARROW WITH MEDIUM SHAFT",
    "⁰DOWNWARDS TRIANGLE-HEADED ARROW WITH MEDIUM SHAFT",
    "⁰LEFTWARDS TRIANGLE-HEADED ARROW WITH BOLD SHAFT",
    "⁰UPWARDS TRIANGLE-HEADED ARROW WITH BOLD SHAFT",
    "⁰RIGHTWARDS TRIANGLE-HEADED ARROW WITH BOLD SHAFT",
    "⁰DOWNWARDS TRIANGLE-HEADED ARROW WITH BOLD SHAFT",
    "⁰LEFTWARDS TRIANGLE-HEADED ARROW WITH HEAVY SHAFT",
    "⁰UPWARDS TRIANGLE-HEADED ARROW WITH HEAVY SHAFT",
    "⁰RIGHTWARDS TRIANGLE-HEADED ARROW WITH HEAVY SHAFT",
    "⁰DOWNWARDS TRIANGLE-HEADED ARROW WITH HEAVY SHAFT",
    "⁰LEFTWARDS TRIANGLE-HEADED ARROW WITH VERY HEAVY SHAFT",
    "⁰UPWARDS TRIANGLE-HEADED ARROW WITH VERY HEAVY SHAFT",
    "⁰RIGHTWARDS TRIANGLE-HEADED ARROW WITH VERY HEAVY SHAFT",
    "⁰DOWNWARDS TRIANGLE-HEADED ARROW WITH VERY HEAVY SHAFT⁰LEFTWARDS FINGER-POST ARROW",
    "⁰UPWARDS FINGER-POST ARROW⁰RIGHTWARDS FINGER-POST ARROW⁰DOWNWARDS FINGER-POST ARROW",
    "⁰LEFTWARDS SQUARED ARROW⁰UPWARDS SQUARED ARROW⁰RIGHTWARDS SQUARED ARROW",
    "⁰DOWNWARDS SQUARED ARROW⁰LEFTWARDS COMPRESSED ARROW⁰UPWARDS COMPRESSED ARROW",
    "⁰RIGHTWARDS COMPRESSED ARROW⁰DOWNWARDS COMPRESSED ARROW⁰LEFTWARDS HEAVY COMPRESSED ARROW",
    "⁰UPWARDS HEAVY COMPRESSED ARROW⁰RIGHTWARDS HEAVY COMPRESSED ARROW",
    "⁰DOWNWARDS HEAVY COMPRESSED ARROW⁰LEFTWARDS HEAVY ARROW⁰UPWARDS HEAVY ARROW",
    "⁰RIGHTWARDS HEAVY ARROW⁰DOWNWARDS HEAVY ARROW"]⟩,
  ⟨0x1f850, [
    "⁰LEFTWARDS SANS-SERIF ARROW⁰UPWARDS SANS-SERIF ARROW⁰RIGHTWARDS SANS-SERIF ARROW",
    "⁰DOWNWARDS SANS-SERIF ARROW⁰NORTH WEST SANS-SERIF ARROW¹EAST SANS-SERIF ARROW",
    "⁰SOUTH EAST SANS-SERIF ARROW¹WEST SANS-SERIF ARROW⁰LEFT RIGHT SANS-SERIF ARROW",
    "⁰UP DOWN SANS-SERIF ARROW"]⟩,
  ⟨0x1f860, [
    "⁰WIDE-HEADED LEFTWARDS LIGHT BARB ARROW¹UPWARDS LIGHT BARB ARROW",
    "¹RIGHTWARDS LIGHT BARB ARROW¹DOWNWARDS LIGHT BARB ARROW¹NORTH WEST LIGHT BARB ARROW",
    "²EAST LIGHT BARB ARROW¹SOUTH EAST LIGHT BARB ARROW²WEST LIGHT BARB ARROW",
    "¹LEFTWARDS BARB ARROW¹UPWARDS BARB ARROW¹RIGHTWARDS BARB ARROW¹DOWNWARDS BARB ARROW",
    "¹NORTH WEST BARB ARROW²EAST BARB ARROW¹SOUTH EAST BARB ARROW²WEST BARB ARROW",
    "¹LEFTWARDS MEDIUM BARB ARROW¹UPWARDS MEDIUM BARB ARROW¹RIGHTWARDS MEDIUM BARB ARROW",
    "¹DOWNWARDS MEDIUM BARB ARROW¹NORTH WEST MEDIUM BARB ARROW²EAST MEDIUM BARB ARROW",
    "¹SOUTH EAST MEDIUM BARB ARROW²WEST MEDIUM BARB ARROW¹LEFTWARDS HEAVY BARB ARROW",
    "¹UPWARDS HEAVY BARB ARROW¹RIGHTWARDS HEAVY BARB ARROW¹DOWNWARDS HEAVY BARB ARROW",
    "¹NORTH WEST HEAVY BARB ARROW²EAST HEAVY BARB ARROW¹SOUTH EAST HEAVY BARB ARROW",
    "²WEST HEAVY BARB ARROW¹LEFTWARDS VERY HEAVY BARB ARROW¹UPWARDS VERY HEAVY BARB ARROW",
    "¹RIGHTWARDS VERY HEAVY BARB ARROW¹DOWNWARDS VERY HEAVY BARB ARROW",
    "¹NORTH WEST VERY HEAVY BARB ARROW²EAST VERY HEAVY BARB ARROW",
    "¹SOUTH EAST VERY HEAVY BARB ARROW²WEST VERY HEAVY BARB ARROW"]⟩,
  ⟨0x1f890, [
    "⁰LEFTWARDS TRIANGLE ARROWHEAD⁰UPWARDS TRIANGLE ARROWHEAD⁰RIGHTWARDS TRIANGLE ARROWHEAD",
    "⁰DOWNWARDS TRIANGLE ARROWHEAD⁰LEFTWARDS WHITE ARROW WITHIN TRIANGLE ARROWHEAD",
    "⁰UPWARDS WHITE ARROW WITHIN TRIANGLE ARROWHEAD",
    "⁰RIGHTWARDS WHITE ARROW WITHIN TRIANGLE ARROWHEAD",
    "⁰DOWNWARDS WHITE ARROW WITHIN TRIANGLE ARROWHEAD⁰LEFTWARDS ARROW WITH NOTCHED TAIL",
    "⁰UPWARDS ARROW WITH NOTCHED TAIL⁰RIGHTWARDS ARROW WITH NOTCHED TAIL",
    "⁰DOWNWARDS ARROW WITH NOTCHED TAIL⁰HEAVY ARROW SHAFT WIDTH ONE⁴TWO THIRDS⁴ONE HALF⁵THIRD",
    "⁰LEFTWARDS BOTTOM-SHADED WHITE ARROW⁰RIGHTWARDS BOTTOM SHADED WHITE ARROW",
    "⁰LEFTWARDS TOP SHADED WHITE ARROW⁰RIGHTWARDS TOP SHADED WHITE ARROW",
    "⁰LEFTWARDS LEFT-SHADED WHITE ARROW⁰RIGHTWARDS RIGHT-SHADED WHITE ARROW",
    "⁰LEFTWARDS RIGHT-SHADED WHITE ARROW⁰RIGHTWARDS LEFT-SHADED WHITE ARROW",
    "⁰LEFTWARDS BACK-TILTED SHADOWED WHITE ARROW⁰RIGHTWARDS BACK-TILTED SHADOWED WHITE ARROW",
    "⁰LEFTWARDS FRONT-TILTED SHADOWED WHITE ARROW",
    "⁰RIGHTWARDS FRONT-TILTED SHADOWED WHITE ARROW⁰WHITE ARROW SHAFT WIDTH ONE⁴TWO THIRDS"]⟩,
  ⟨0x1f8b0, ["⁰ARROW POINTING UPWARDS THEN NORTH WEST²RIGHTWARDS THEN CURVING SOUTH WEST"]⟩,
  ⟨0x1f900, [
    "⁰CIRCLED CROSS FORMEE WITH FOUR DOTS⁴TWO DOTS²FORMEE⁰LEFT HALF CIRCLE WITH FOUR DOTS",
    "⁴THREE DOTS⁴TWO DOTS⁴DOT²CIRCLE⁰DOWNWARD FACING HOOK²NOTCHED HOOK²HOOK WITH DOT",
    "²NOTCHED HOOK WITH DOT⁰PINCHED FINGERS⁰WHITE HEART⁰BROWN HEART⁰PINCHING HAND",
    "⁰ZIPPER-MOUTH FACE⁰MONEY-MOUTH FACE⁰FACE WITH THERMOMETER⁰NERD FACE⁰THINKING FACE",
    "⁰FACE WITH HEAD-BANDAGE⁰ROBOT FACE⁰HUGGING FACE⁰SIGN OF THE HORNS⁰CALL ME HAND",
    "⁰RAISED BACK OF HAND⁰LEFT-FACING FIST⁰RIGHT-FACING FIST⁰HANDSHAKE",
    "⁰HAND WITH INDEX AND MIDDLE FINGERS CROSSED⁰I LOVE YOU HAND SIGN⁰FACE WITH COWBOY HAT",
    "⁰CLOWN FACE⁰NAUSEATED FACE⁰ROLLING ON THE FLOOR LAUGHING⁰DROOLING FACE⁰LYING FACE",
    "⁰FACE PALM⁰SNEEZING FACE⁰FACE WITH ONE EYEBROW RAISED⁰GRINNING FACE WITH STAR EYES",
    "³ONE LARGE AND ONE SMALL EYE⁰FACE WITH FINGER COVERING CLOSED LIPS",
    "⁰SERIOUS FACE WITH SYMBOLS COVERING MOUTH",
    "⁰SMILING FACE WITH SMILING EYES AND HAND COVERING MOUTH⁰FACE WITH OPEN MOUTH VOMITING",
    "⁰SHOCKED FACE WITH EXPLODING HEAD⁰PREGNANT WOMAN⁰BREAST-FEEDING⁰PALMS UP TOGETHER⁰SELFIE",
    "⁰PRINCE⁰MAN IN TUXEDO⁰MOTHER CHRISTMAS⁰SHRUG⁰PERSON DOING CARTWHEEL⁰JUGGLING⁰FENCER",
    "⁰MODERN PENTATHLON⁰WRESTLERS⁰WATER POLO⁰HANDBALL⁰DIVING MASK⁰WILTED FLOWER",
    "⁰DRUM WITH DRUMSTICKS⁰CLINKING GLASSES⁰TUMBLER GLASS⁰SPOON⁰GOAL NET⁰RIFLE",
    "⁰FIRST PLACE MEDAL⁰SECOND PLACE MEDAL⁰THIRD PLACE MEDAL⁰BOXING GLOVE",
    "⁰MARTIAL ARTS UNIFORM⁰CURLING STONE⁰LACROSSE STICK AND BALL⁰SOFTBALL⁰FLYING DISC",
    "⁰CROISSANT⁰AVOCADO⁰CUCUMBER⁰BACON⁰POTATO⁰CARROT⁰BAGUETTE BREAD⁰GREEN SALAD",
    "⁰SHALLOW PAN OF FOOD⁰STUFFED FLATBREAD⁰EGG⁰GLASS OF MILK⁰PEANUTS⁰KIWIFRUIT⁰PANCAKES",
    "⁰DUMPLING⁰FORTUNE COOKIE⁰TAKEOUT BOX⁰CHOPSTICKS⁰BOWL WITH SPOON⁰CUP WITH STRAW⁰COCONUT",
    "⁰BROCCOLI⁰PIE⁰PRETZEL⁰CUT OF MEAT⁰SANDWICH⁰CANNED FOOD⁰LEAFY GREEN⁰MANGO⁰MOON CAKE⁰BAGEL",
    "⁰SMILING FACE WITH SMILING EYES AND THREE HEARTS⁰YAWNING FACE⁰SMILING FACE WITH TEAR",
    "⁰FACE WITH PARTY HORN AND PARTY HAT²UNEVEN EYES AND WAVY MOUTH⁰OVERHEATED FACE",
    "⁰FREEZING FACE⁰NINJA⁰DISGUISED FACE⁰FACE HOLDING BACK TEARS¹WITH PLEADING EYES⁰SARI",
    "⁰LAB COAT⁰GOGGLES⁰HIKING BOOT⁰FLAT SHOE⁰CRAB⁰LION FACE⁰SCORPION⁰TURKEY⁰UNICORN FACE",
    "⁰EAGLE⁰DUCK⁰BAT⁰SHARK⁰OWL⁰FOX FACE⁰BUTTERFLY⁰DEER⁰GORILLA⁰LIZARD⁰RHINOCEROS⁰SHRIMP⁰SQUID",
    "⁰GIRAFFE FACE⁰ZEBRA FACE⁰HEDGEHOG⁰SAUROPOD⁰T-REX⁰CRICKET⁰KANGAROO⁰LLAMA⁰PEACOCK",
    "⁰HIPPOPOTAMUS⁰PARROT⁰RACCOON⁰LOBSTER⁰MOSQUITO⁰MICROBE⁰BADGER⁰SWAN⁰MAMMOTH⁰DODO⁰SLOTH",
    "⁰OTTER⁰ORANGUTAN⁰SKUNK⁰FLAMINGO⁰OYSTER⁰BEAVER⁰BISON⁰SEAL⁰GUIDE DOG⁰PROBING CANE",
    "⁰EMOJI COMPONENT RED HAIR²CURLY HAIR²BALD²WHITE HAIR⁰BONE⁰LEG⁰FOOT⁰TOOTH⁰SUPERHERO",
    "⁰SUPERVILLAIN⁰SAFETY VEST⁰EAR WITH HEARING AID⁰MOTORIZED WHEELCHAIR⁰MANUAL WHEELCHAIR",
    "⁰MECHANICAL ARM¹LEG⁰CHEESE WEDGE⁰CUPCAKE⁰SALT SHAKER⁰BEVERAGE BOX⁰GARLIC⁰ONION⁰FALAFEL",
    "⁰WAFFLE⁰BUTTER⁰MATE DRINK⁰ICE CUBE⁰BUBBLE TEA⁰TROLL⁰STANDING PERSON⁰KNEELING PERSON",
    "⁰DEAF PERSON⁰FACE WITH MONOCLE⁰ADULT⁰CHILD⁰OLDER ADULT⁰BEARDED PERSON",
    "⁰PERSON WITH HEADSCARF¹IN STEAMY ROOM¹CLIMBING¹IN LOTUS POSITION⁰MAGE⁰FAIRY⁰VAMPIRE",
    "⁰MERPERSON⁰ELF⁰GENIE⁰ZOMBIE⁰BRAIN⁰ORANGE HEART⁰BILLED CAP⁰SCARF⁰GLOVES⁰COAT⁰SOCKS",
    "⁰RED GIFT ENVELOPE⁰FIRECRACKER⁰JIGSAW PUZZLE PIECE⁰TEST TUBE⁰PETRI DISH⁰DNA DOUBLE HELIX",
    "⁰COMPASS⁰ABACUS⁰FIRE EXTINGUISHER⁰TOOLBOX⁰BRICK⁰MAGNET⁰LUGGAGE⁰LOTION BOTTLE",
    "⁰SPOOL OF THREAD⁰BALL OF YARN⁰SAFETY PIN⁰TEDDY BEAR⁰BROOM⁰BASKET⁰ROLL OF PAPER",
    "⁰BAR OF SOAP⁰SPONGE⁰RECEIPT⁰NAZAR AMULET⁰NEUTRAL CHESS KING²QUEEN²ROOK²BISHOP²KNIGHT",
    "²PAWN⁰WHITE CHESS KNIGHT ROTATED FORTY-FIVE DEGREES",
    "⁰BLACK CHESS KNIGHT ROTATED FORTY-FIVE DEGREES",
    "⁰NEUTRAL CHESS KNIGHT ROTATED FORTY-FIVE DEGREES⁰WHITE CHESS KING ROTATED NINETY DEGREES",
    "²QUEEN ROTATED NINETY DEGREES²ROOK ROTATED NINETY DEGREES²BISHOP ROTATED NINETY DEGREES",
    "²KNIGHT ROTATED NINETY DEGREES²PAWN ROTATED NINETY DEGREES",
    "⁰BLACK CHESS KING ROTATED NINETY DEGREES²QUEEN ROTATED NINETY DEGREES",
    "²ROOK ROTATED NINETY DEGREES²BISHOP ROTATED NINETY DEGREES²KNIGHT ROTATED NINETY DEGREES",
    "²PAWN ROTATED NINETY DEGREES⁰NEUTRAL CHESS KING ROTATED NINETY DEGREES",
    "²QUEEN ROTATED NINETY DEGREES²ROOK ROTATED NINETY DEGREES²BISHOP ROTATED NINETY DEGREES",
    "²KNIGHT ROTATED NINETY DEGREES²PAWN ROTATED NINETY DEGREES",
    "⁰WHITE CHESS KNIGHT ROTATED ONE HUNDRED THIRTY-FIVE DEGREES",
    "⁰BLACK CHESS KNIGHT ROTATED ONE HUNDRED THIRTY-FIVE DEGREES",
    "⁰NEUTRAL CHESS KNIGHT ROTATED ONE HUNDRED THIRTY-FIVE DEGREES⁰WHITE CHESS TURNED KING",
    "³QUEEN³ROOK³BISHOP³KNIGHT³PAWN⁰BLACK CHESS TURNED KING³QUEEN³ROOK³BISHOP³KNIGHT³PAWN",
    "⁰NEUTRAL CHESS TURNED KING³QUEEN³ROOK³BISHOP³KNIGHT³PAWN",
    "⁰WHITE CHESS KNIGHT ROTATED TWO HUNDRED TWENTY-FIVE DEGREES",
    "⁰BLACK CHESS KNIGHT ROTATED TWO HUNDRED TWENTY-FIVE DEGREES",
    "⁰NEUTRAL CHESS KNIGHT ROTATED TWO HUNDRED TWENTY-FIVE DEGREES",
    "⁰WHITE CHESS KING ROTATED TWO HUNDRED SEVENTY DEGREES",
    "²QUEEN ROTATED TWO HUNDRED SEVENTY DEGREES²ROOK ROTATED TWO HUNDRED SEVENTY DEGREES",
    "²BISHOP ROTATED TWO HUNDRED SEVENTY DEGREES²KNIGHT ROTATED TWO HUNDRED SEVENTY DEGREES",
    "²PAWN ROTATED TWO HUNDRED SEVENTY DEGREES",
    "⁰BLACK CHESS KING ROTATED TWO HUNDRED SEVENTY DEGREES",
    "²QUEEN ROTATED TWO HUNDRED SEVENTY DEGREES²ROOK ROTATED TWO HUNDRED SEVENTY DEGREES",
    "²BISHOP ROTATED TWO HUNDRED SEVENTY DEGREES²KNIGHT ROTATED TWO HUNDRED SEVENTY DEGREES",
    "²PAWN ROTATED TWO HUNDRED SEVENTY DEGREES",
    "⁰NEUTRAL CHESS KING ROTATED TWO HUNDRED SEVENTY DEGREES",
    "²QUEEN ROTATED TWO HUNDRED SEVENTY DEGREES²ROOK ROTATED TWO HUNDRED SEVENTY DEGREES",
    "²BISHOP ROTATED TWO HUNDRED SEVENTY DEGREES²KNIGHT ROTATED TWO HUNDRED SEVENTY DEGREES",
    "²PAWN ROTATED TWO HUNDRED SEVENTY DEGREES",
    "⁰WHITE CHESS KNIGHT ROTATED THREE HUNDRED FIFTEEN DEGREES",
    "⁰BLACK CHESS KNIGHT ROTATED THREE HUNDRED FIFTEEN DEGREES",
    "⁰NEUTRAL CHESS KNIGHT ROTATED THREE HUNDRED FIFTEEN DEGREES⁰WHITE CHESS EQUIHOPPER",
    "⁰BLACK CHESS EQUIHOPPER⁰NEUTRAL CHESS EQUIHOPPER",
    "⁰WHITE CHESS EQUIHOPPER ROTATED NINETY DEGREES",
    "⁰BLACK CHESS EQUIHOPPER ROTATED NINETY DEGREES",
    "⁰NEUTRAL CHESS EQUIHOPPER ROTATED NINETY DEGREES⁰WHITE CHESS KNIGHT-QUEEN²KNIGHT-ROOK",
    "²KNIGHT-BISHOP⁰BLACK CHESS KNIGHT-QUEEN²KNIGHT-ROOK²KNIGHT-BISHOP"]⟩,
  ⟨0x1fa60, [
    "⁰XIANGQI RED GENERAL²MANDARIN²ELEPHANT²HORSE²CHARIOT²CANNON²SOLDIER¹BLACK GENERAL",
    "²MANDARIN²ELEPHANT²HORSE²CHARIOT²CANNON²SOLDIER"]⟩,
  ⟨0x1fa70, ["⁰BALLET SHOES⁰ONE-PIECE SWIMSUIT⁰BRIEFS⁰SHORTS⁰THONG SANDAL"]⟩,
  ⟨0x1fa78, ["⁰DROP OF BLOOD⁰ADHESIVE BANDAGE⁰STETHOSCOPE⁰X-RAY⁰CRUTCH"]⟩,
  ⟨0x1fa80, ["⁰YO-YO⁰KITE⁰PARACHUTE⁰BOOMERANG⁰MAGIC WAND⁰PINATA⁰NESTING DOLLS"]⟩,
  ⟨0x1fa90, [
    "⁰RINGED PLANET⁰CHAIR⁰RAZOR⁰AXE⁰DIYA LAMP⁰BANJO⁰MILITARY HELMET⁰ACCORDION⁰LONG DRUM⁰COIN",
    "⁰CARPENTRY SAW⁰SCREWDRIVER⁰LADDER⁰HOOK⁰MIRROR⁰WINDOW⁰PLUNGER⁰SEWING NEEDLE⁰KNOT⁰BUCKET",
    "⁰MOUSE TRAP⁰TOOTHBRUSH⁰HEADSTONE⁰PLACARD⁰ROCK⁰MIRROR BALL⁰IDENTIFICATION CARD",
    "⁰LOW BATTERY⁰HAMSA"]⟩,
  ⟨0x1fab0, [
    "⁰FLY⁰WORM⁰BEETLE⁰COCKROACH⁰POTTED PLANT⁰WOOD⁰FEATHER⁰LOTUS⁰CORAL⁰EMPTY NEST",
    "⁰NEST WITH EGGS"]⟩,
  ⟨0x1fac0, [
    "⁰ANATOMICAL HEART⁰LUNGS⁰PEOPLE HUGGING⁰PREGNANT MAN¹PERSON⁰PERSON WITH CROWN"]⟩,
  ⟨0x1fad0, [
    "⁰BLUEBERRIES⁰BELL PEPPER⁰OLIVE⁰FLATBREAD⁰TAMALE⁰FONDUE⁰TEAPOT⁰POURING LIQUID⁰BEANS⁰JAR"]⟩,
  ⟨0x1fae0, [
    "⁰MELTING FACE⁰SALUTING FACE⁰FACE WITH OPEN EYES AND HAND OVER MOUTH²PEEKING EYE",
    "²DIAGONAL MOUTH⁰DOTTED LINE FACE⁰BITING LIP⁰BUBBLES"]⟩,
  ⟨0x1faf0, [
    "⁰HAND WITH INDEX FINGER AND THUMB CROSSED⁰RIGHTWARDS HAND⁰LEFTWARDS HAND⁰PALM DOWN HAND",
    "¹UP HAND⁰INDEX POINTING AT THE VIEWER⁰HEART HANDS"]⟩,
  ⟨0x1fb00, [
    "⁰BLOCK SEXTANT-1¹SEXTANT-2¹SEXTANT-12¹SEXTANT-3¹SEXTANT-13¹SEXTANT-23¹SEXTANT-123",
    "¹SEXTANT-4¹SEXTANT-14¹SEXTANT-24¹SEXTANT-124¹SEXTANT-34¹SEXTANT-134¹SEXTANT-234",
    "¹SEXTANT-1234¹SEXTANT-5¹SEXTANT-15¹SEXTANT-25¹SEXTANT-125¹SEXTANT-35¹SEXTANT-235",
    "¹SEXTANT-1235¹SEXTANT-45¹SEXTANT-145¹SEXTANT-245¹SEXTANT-1245¹SEXTANT-345¹SEXTANT-1345",
    "¹SEXTANT-2345¹SEXTANT-12345¹SEXTANT-6¹SEXTANT-16¹SEXTANT-26¹SEXTANT-126¹SEXTANT-36",
    "¹SEXTANT-136¹SEXTANT-236¹SEXTANT-1236¹SEXTANT-46¹SEXTANT-146¹SEXTANT-1246¹SEXTANT-346",
    "¹SEXTANT-1346¹SEXTANT-2346¹SEXTANT-12346¹SEXTANT-56¹SEXTANT-156¹SEXTANT-256¹SEXTANT-1256",
    "¹SEXTANT-356¹SEXTANT-1356¹SEXTANT-2356¹SEXTANT-12356¹SEXTANT-456¹SEXTANT-1456",
    "¹SEXTANT-2456¹SEXTANT-12456¹SEXTANT-3456¹SEXTANT-13456¹SEXTANT-23456",
    "⁰LOWER LEFT BLOCK DIAGONAL LOWER MIDDLE LEFT TO LOWER CENTRE⁹RIGHT",
    "⁴UPPER MIDDLE LEFT TO LOWER CENTRE⁹RIGHT⁵LEFT TO LOWER CENTRE",
    "¹RIGHT BLOCK DIAGONAL UPPER MIDDLE LEFT TO UPPER CENTRE⁹RIGHT",
    "⁴LOWER MIDDLE LEFT TO UPPER CENTRE⁹RIGHT⁵LEFT TO UPPER CENTRE",
    "⁵MIDDLE LEFT TO UPPER MIDDLE RIGHT⁵CENTRE TO LOWER MIDDLE RIGHT",
    "⁵LEFT TO LOWER MIDDLE RIGHT⁵CENTRE TO UPPER MIDDLE RIGHT⁵LEFT TO UPPER MIDDLE RIGHT",
    "⁵CENTRE TO UPPER RIGHT¹LEFT BLOCK DIAGONAL UPPER CENTRE TO UPPER MIDDLE RIGHT",
    "⁵LEFT TO UPPER MIDDLE RIGHT⁵CENTRE TO LOWER MIDDLE RIGHT⁵LEFT TO LOWER MIDDLE RIGHT",
    "⁵CENTRE TO LOWER RIGHT⁵MIDDLE LEFT TO LOWER MIDDLE RIGHT",
    "⁰UPPER RIGHT BLOCK DIAGONAL LOWER MIDDLE LEFT TO LOWER CENTRE⁹RIGHT",
    "⁴UPPER MIDDLE LEFT TO LOWER CENTRE⁹RIGHT⁵LEFT TO LOWER CENTRE",
    "¹LEFT BLOCK DIAGONAL UPPER MIDDLE LEFT TO UPPER CENTRE⁹RIGHT",
    "⁴LOWER MIDDLE LEFT TO UPPER CENTRE⁹RIGHT⁵LEFT TO UPPER CENTRE",
    "⁵MIDDLE LEFT TO UPPER MIDDLE RIGHT⁵CENTRE TO LOWER MIDDLE RIGHT",
    "⁵LEFT TO LOWER MIDDLE RIGHT⁵CENTRE TO UPPER MIDDLE RIGHT⁵LEFT TO UPPER MIDDLE RIGHT",
    "⁵CENTRE TO UPPER RIGHT¹RIGHT BLOCK DIAGONAL UPPER CENTRE TO UPPER MIDDLE RIGHT",
    "⁵LEFT TO UPPER MIDDLE RIGHT⁵CENTRE TO LOWER MIDDLE RIGHT⁵LEFT TO LOWER MIDDLE RIGHT",
    "⁵CENTRE TO LOWER RIGHT⁵MIDDLE LEFT TO LOWER MIDDLE RIGHT",
    "¹AND RIGHT AND LOWER TRIANGULAR THREE QUARTERS BLOCK",
    "⁰LEFT AND LOWER AND RIGHT TRIANGULAR THREE QUARTERS BLOCK",
    "⁰UPPER AND LEFT AND LOWER TRIANGULAR THREE QUARTERS BLOCK",
    "⁰LEFT AND UPPER AND RIGHT TRIANGULAR THREE QUARTERS BLOCK¹TRIANGULAR ONE QUARTER BLOCK",
    "⁰UPPER TRIANGULAR ONE QUARTER BLOCK⁰RIGHT TRIANGULAR ONE QUARTER BLOCK",
    "⁰LOWER TRIANGULAR ONE QUARTER BLOCK⁰VERTICAL ONE EIGHTH BLOCK-2³BLOCK-3³BLOCK-4³BLOCK-5",
    "³BLOCK-6³BLOCK-7⁰HORIZONTAL ONE EIGHTH BLOCK-2³BLOCK-3³BLOCK-4³BLOCK-5³BLOCK-6³BLOCK-7",
    "⁰LEFT AND LOWER ONE EIGHTH BLOCK²UPPER ONE EIGHTH BLOCK⁰RIGHT AND UPPER ONE EIGHTH BLOCK",
    "²LOWER ONE EIGHTH BLOCK⁰UPPER AND LOWER ONE EIGHTH BLOCK",
    "⁰HORIZONTAL ONE EIGHTH BLOCK-1358⁰UPPER ONE QUARTER BLOCK¹THREE EIGHTHS BLOCK",
    "¹FIVE EIGHTHS BLOCK¹THREE QUARTERS BLOCK¹SEVEN EIGHTHS BLOCK⁰RIGHT ONE QUARTER BLOCK",
    "¹THREE EIGHTHS BLOCK¹FIVE EIGHTHS BLOCK¹THREE QUARTERS BLOCK¹SEVEN EIGHTHS BLOCK",
    "⁰LEFT HALF MEDIUM SHADE⁰RIGHT HALF MEDIUM SHADE⁰UPPER HALF MEDIUM SHADE",
    "⁰LOWER HALF MEDIUM SHADE⁰INVERSE MEDIUM SHADE",
    "⁰UPPER HALF BLOCK AND LOWER HALF INVERSE MEDIUM SHADE",
    "²INVERSE MEDIUM SHADE AND LOWER HALF BLOCK"]⟩,
  ⟨0x1fb94, [
    "⁰LEFT HALF INVERSE MEDIUM SHADE AND RIGHT HALF BLOCK⁰CHECKER BOARD FILL",
    "⁰INVERSE CHECKER BOARD FILL⁰HEAVY HORIZONTAL FILL⁰UPPER LEFT TO LOWER RIGHT FILL",
    "¹RIGHT TO LOWER LEFT FILL¹AND LOWER TRIANGULAR HALF BLOCK",
    "⁰LEFT AND RIGHT TRIANGULAR HALF BLOCK⁰UPPER LEFT TRIANGULAR MEDIUM SHADE",
    "¹RIGHT TRIANGULAR MEDIUM SHADE⁰LOWER RIGHT TRIANGULAR MEDIUM SHADE",
    "¹LEFT TRIANGULAR MEDIUM SHADE⁰BOX DRAWINGS LIGHT DIAGONAL UPPER CENTRE TO MIDDLE LEFT",
    "⁸RIGHT⁴MIDDLE LEFT TO LOWER CENTRE⁵RIGHT TO LOWER CENTRE",
    "⁴UPPER CENTRE TO MIDDLE LEFT TO LOWER CENTRE⁸RIGHT TO LOWER CENTRE",
    "⁴MIDDLE LEFT TO LOWER CENTRE TO MIDDLE RIGHT⁷UPPER CENTRE TO MIDDLE RIGHT",
    "⁴UPPER CENTRE TO MIDDLE LEFT AND MIDDLE RIGHT TO LOWER CENTRE",
    "⁸RIGHT AND MIDDLE LEFT TO LOWER CENTRE⁹TO LOWER CENTRE TO MIDDLE LEFT",
    "⁸LEFT TO LOWER CENTRE TO MIDDLE RIGHT",
    "⁴MIDDLE LEFT TO UPPER CENTRE TO MIDDLE RIGHT TO LOWER CENTRE",
    "⁵RIGHT TO UPPER CENTRE TO MIDDLE LEFT TO LOWER CENTRE⁴DIAMOND",
    "³HORIZONTAL WITH VERTICAL STROKE⁰ARROWHEAD-SHAPED POINTER⁰INVERSE CHECK MARK",
    "⁰LEFT HALF RUNNING MAN⁰RIGHT HALF RUNNING MAN⁰INVERSE DOWNWARDS ARROW WITH TIP LEFTWARDS",
    "⁰LEFTWARDS ARROW AND UPPER AND LOWER ONE EIGHTH BLOCK",
    "⁰RIGHTWARDS ARROW AND UPPER AND LOWER ONE EIGHTH BLOCK",
    "⁰DOWNWARDS ARROW AND RIGHT ONE EIGHTH BLOCK⁰UPWARDS ARROW AND RIGHT ONE EIGHTH BLOCK",
    "⁰LEFT HALF FOLDER⁰RIGHT HALF FOLDER⁰VOIDED GREEK CROSS⁰RIGHT OPEN SQUARED DOT",
    "⁰NEGATIVE DIAGONAL CROSS²MIDDLE RIGHT TO LOWER CENTRE²DIAMOND",
    "⁰WHITE HEAVY SALTIRE WITH ROUNDED CORNERS⁰LEFT THIRD WHITE RIGHT POINTING INDEX",
    "⁰MIDDLE THIRD WHITE RIGHT POINTING INDEX⁰RIGHT THIRD WHITE RIGHT POINTING INDEX",
    "⁰NEGATIVE SQUARED QUESTION MARK⁰STICK FIGURE²WITH ARMS RAISED²LEANING LEFT³RIGHT",
    "²WITH DRESS⁰WHITE UP-POINTING CHEVRON"]⟩,
  ⟨0x1fbf0, ["⁰SEGMENTED DIGIT ZERO²ONE²TWO²THREE²FOUR²FIVE²SIX²SEVEN²EIGHT²NINE"]⟩,
  ⟨0xe0001, ["⁰LANGUAGE TAG"]⟩,
  ⟨0xe0020, [
    "⁰TAG SPACE¹EXCLAMATION MARK¹QUOTATION MARK¹NUMBER SIGN¹DOLLAR SIGN¹PERCENT SIGN",
    "¹AMPERSAND¹APOSTROPHE¹LEFT PARENTHESIS¹RIGHT PARENTHESIS¹ASTERISK¹PLUS SIGN¹COMMA",
    "¹HYPHEN-MINUS¹FULL STOP¹SOLIDUS¹DIGIT ZERO²ONE²TWO²THREE²FOUR²FIVE²SIX²SEVEN²EIGHT²NINE",
    "¹COLON¹SEMICOLON¹LESS-THAN SIGN¹EQUALS SIGN¹GREATER-THAN SIGN¹QUESTION MARK",
    "¹COMMERCIAL AT¹LATIN CAPITAL LETTER A⁴B⁴C⁴D⁴E⁴F⁴G⁴H⁴I⁴J⁴K⁴L⁴M⁴N⁴O⁴P⁴Q⁴R⁴S⁴T⁴U⁴V⁴W⁴X⁴Y⁴Z",
    "¹LEFT SQUARE BRACKET¹REVERSE SOLIDUS¹RIGHT SQUARE BRACKET¹CIRCUMFLEX ACCENT¹LOW LINE",
    "¹GRAVE ACCENT¹LATIN SMALL LETTER A⁴B⁴C⁴D⁴E⁴F⁴G⁴H⁴I⁴J⁴K⁴L⁴M⁴N⁴O⁴P⁴Q⁴R⁴S⁴T⁴U⁴V⁴W⁴X⁴Y⁴Z",
    "¹LEFT CURLY BRACKET¹VERTICAL LINE¹RIGHT CURLY BRACKET¹TILDE⁰CANCEL TAG"]⟩]

end BlockLang.CharName
