/-! # Compositions

The characters that a character and a mark after it make up. -/

namespace BlockLang.Text

/-- A second character, with first characters and what each of them makes with the second one. -/
structure CompositionRow where
  second : Nat
  firsts : String
  composites : String

/-- The compositions of Unicode 14.0, without those of Hangul. -/
def compositionRows : List CompositionRow :=
  [⟨0x0300,
    "AEINOUWYaeinouwy¨ÂÊÔÜâêôüĂăĒēŌōƠơƯưΑΕΗΙΟΥΩαεηιουωϊϋЕИеиἀἁἈἉἐἑἘἙἠἡἨἩἰἱἸἹὀὁὈὉὐὑὙὠὡὨὩ᾿῾",
    "ÀÈÌǸÒÙẀỲàèìǹòùẁỳ῭ẦỀỒǛầềồǜẰằḔḕṐṑỜờỪừᾺῈῊῚῸῪῺὰὲὴὶὸὺὼῒῢЀЍѐѝἂἃἊἋἒἓἚἛἢἣἪἫἲἳἺἻὂὃὊὋὒὓὛὢὣὪὫ῍῝"⟩,
   ⟨0x0301,
    "ACEGIKLMNOPRSUWYZacegiklmnoprsuwyz¨ÂÅÆÇÊÏÔÕØÜâåæçêïôõøüĂăĒēŌōŨũƠơƯưΑΕΗΙΟΥΩαεηιουωϊϋϒГК" ++
      "гкἀἁἈἉἐἑἘἙἠἡἨἩἰἱἸἹὀὁὈὉὐὑὙὠὡὨὩ᾿῾",
    "ÁĆÉǴÍḰĹḾŃÓṔŔŚÚẂÝŹáćéǵíḱĺḿńóṕŕśúẃýź΅ẤǺǼḈẾḮỐṌǾǗấǻǽḉếḯốṍǿǘẮắḖḗṒṓṸṹỚớỨứΆΈΉΊΌΎΏάέήίόύώΐΰϓЃЌ" ++
      "ѓќἄἅἌἍἔἕἜἝἤἥἬἭἴἵἼἽὄὅὌὍὔὕὝὤὥὬὭ῎῞"⟩,
   ⟨0x0302, "ACEGHIJOSUWYZaceghijosuwyzẠạẸẹỌọ", "ÂĈÊĜĤÎĴÔŜÛŴŶẐâĉêĝĥîĵôŝûŵŷẑẬậỆệỘộ"⟩,
   ⟨0x0303, "AEINOUVYaeinouvyÂÊÔâêôĂăƠơƯư", "ÃẼĨÑÕŨṼỸãẽĩñõũṽỹẪỄỖẫễỗẴẵỠỡỮữ"⟩,
   ⟨0x0304,
    "AEGIOUYaegiouyÄÆÕÖÜäæõöüǪǫȦȧȮȯΑΙΥαιυИУиуḶḷṚṛ",
    "ĀĒḠĪŌŪȲāēḡīōūȳǞǢȬȪǕǟǣȭȫǖǬǭǠǡȰȱᾹῙῩᾱῑῡӢӮӣӯḸḹṜṝ"⟩,
   ⟨0x0306, "AEGIOUaegiouȨȩΑΙΥαιυАЕЖИУаежиуẠạ", "ĂĔĞĬŎŬăĕğĭŏŭḜḝᾸῘῨᾰῐῠӐӖӁЙЎӑӗӂйўẶặ"⟩,
   ⟨0x0307,
    "ABCDEFGHIMNOPRSTWXYZabcdefghmnoprstwxyzŚśŠšſṢṣ",
    "ȦḂĊḊĖḞĠḢİṀṄȮṖṘṠṪẆẊẎŻȧḃċḋėḟġḣṁṅȯṗṙṡṫẇẋẏżṤṥṦṧẛṨṩ"⟩,
   ⟨0x0308,
    "AEHIOUWXYaehiotuwxyÕõŪūΙΥιυϒІАЕЖЗИОУЧЫЭаежзиоучыэіӘәӨө",
    "ÄËḦÏÖÜẄẌŸäëḧïöẗüẅẍÿṎṏṺṻΪΫϊϋϔЇӒЁӜӞӤӦӰӴӸӬӓёӝӟӥӧӱӵӹӭїӚӛӪӫ"⟩,
   ⟨0x0309, "AEIOUYaeiouyÂÊÔâêôĂăƠơƯư", "ẢẺỈỎỦỶảẻỉỏủỷẨỂỔẩểổẲẳỞởỬử"⟩, ⟨0x030a, "AUauwy", "ÅŮåůẘẙ"⟩,
   ⟨0x030b, "OUouУу", "ŐŰőűӲӳ"⟩,
   ⟨0x030c, "ACDEGHIKLNORSTUZacdeghijklnorstuzÜüƷʒ", "ǍČĎĚǦȞǏǨĽŇǑŘŠŤǓŽǎčďěǧȟǐǰǩľňǒřšťǔžǙǚǮǯ"⟩,
   ⟨0x030f, "AEIORUaeioruѴѵ", "ȀȄȈȌȐȔȁȅȉȍȑȕѶѷ"⟩, ⟨0x0311, "AEIORUaeioru", "ȂȆȊȎȒȖȃȇȋȏȓȗ"⟩,
   ⟨0x0313, "ΑΕΗΙΟΩαεηιορυω", "ἈἘἨἸὈὨἀἐἠἰὀῤὐὠ"⟩, ⟨0x0314, "ΑΕΗΙΟΡΥΩαεηιορυω", "ἉἙἩἹὉῬὙὩἁἑἡἱὁῥὑὡ"⟩,
   ⟨0x031b, "OUou", "ƠƯơư"⟩,
   ⟨0x0323,
    "ABDEHIKLMNORSTUVWYZabdehiklmnorstuvwyzƠơƯư",
    "ẠḄḌẸḤỊḲḶṂṆỌṚṢṬỤṾẈỴẒạḅḍẹḥịḳḷṃṇọṛṣṭụṿẉỵẓỢợỰự"⟩,
   ⟨0x0324, "Uu", "Ṳṳ"⟩, ⟨0x0325, "Aa", "Ḁḁ"⟩, ⟨0x0326, "STst", "ȘȚșț"⟩,
   ⟨0x0327, "CDEGHKLNRSTcdeghklnrst", "ÇḐȨĢḨĶĻŅŖŞŢçḑȩģḩķļņŗşţ"⟩,
   ⟨0x0328, "AEIOUaeiou", "ĄĘĮǪŲąęįǫų"⟩, ⟨0x032d, "DELNTUdelntu", "ḒḘḼṊṰṶḓḙḽṋṱṷ"⟩,
   ⟨0x032e, "Hh", "Ḫḫ"⟩, ⟨0x0330, "EIUeiu", "ḚḬṴḛḭṵ"⟩,
   ⟨0x0331, "BDKLNRTZbdhklnrtz", "ḆḎḴḺṈṞṮẔḇḏẖḵḻṉṟṯẕ"⟩,
   ⟨0x0338,
    "<=>←→↔⇐⇒⇔∃∈∋∣∥∼≃≅≈≍≡≤≥≲≳≶≷≺≻≼≽⊂⊃⊆⊇⊑⊒⊢⊨⊩⊫⊲⊳⊴⊵",
    "≮≠≯↚↛↮⇍⇏⇎∄∉∌∤∦≁≄≇≉≭≢≰≱≴≵≸≹⊀⊁⋠⋡⊄⊅⊈⊉⋢⋣⊬⊭⊮⊯⋪⋫⋬⋭"⟩,
   ⟨0x0342, "¨αηιυωϊϋἀἁἈἉἠἡἨἩἰἱἸἹὐὑὙὠὡὨὩ᾿῾", "῁ᾶῆῖῦῶῗῧἆἇἎἏἦἧἮἯἶἷἾἿὖὗὟὦὧὮὯ῏῟"⟩,
   ⟨0x0345,
    "ΑΗΩάήαηωώἀἁἂἃἄἅἆἇἈἉἊἋἌἍἎἏἠἡἢἣἤἥἦἧἨἩἪἫἬἭἮἯὠὡὢὣὤὥὦὧὨὩὪὫὬὭὮὯὰὴὼᾶῆῶ",
    "ᾼῌῼᾴῄᾳῃῳῴᾀᾁᾂᾃᾄᾅᾆᾇᾈᾉᾊᾋᾌᾍᾎᾏᾐᾑᾒᾓᾔᾕᾖᾗᾘᾙᾚᾛᾜᾝᾞᾟᾠᾡᾢᾣᾤᾥᾦᾧᾨᾩᾪᾫᾬᾭᾮᾯᾲῂῲᾷῇῷ"⟩,
   ⟨0x0653, "\u0627", "\u0622"⟩,
   ⟨0x0654, "\u0627\u0648\u064a\u06c1\u06d2\u06d5", "\u0623\u0624\u0626\u06c2\u06d3\u06c0"⟩,
   ⟨0x0655, "\u0627", "\u0625"⟩, ⟨0x093c, "नरळ", "ऩऱऴ"⟩, ⟨0x09be, "\u09c7", "\u09cb"⟩,
   ⟨0x09d7, "\u09c7", "\u09cc"⟩, ⟨0x0b3e, "\u0b47", "\u0b4b"⟩, ⟨0x0b56, "\u0b47", "\u0b48"⟩,
   ⟨0x0b57, "\u0b47", "\u0b4c"⟩, ⟨0x0bbe, "\u0bc6\u0bc7", "\u0bca\u0bcb"⟩,
   ⟨0x0bd7, "ஒ\u0bc6", "ஔ\u0bcc"⟩, ⟨0x0c56, "\u0c46", "\u0c48"⟩, ⟨0x0cc2, "\u0cc6", "\u0cca"⟩,
   ⟨0x0cd5, "\u0cbf\u0cc6\u0cca", "\u0cc0\u0cc7\u0ccb"⟩, ⟨0x0cd6, "\u0cc6", "\u0cc8"⟩,
   ⟨0x0d3e, "\u0d46\u0d47", "\u0d4a\u0d4b"⟩, ⟨0x0d57, "\u0d46", "\u0d4c"⟩,
   ⟨0x0dca, "\u0dd9\u0ddc", "\u0dda\u0ddd"⟩, ⟨0x0dcf, "\u0dd9", "\u0ddc"⟩,
   ⟨0x0ddf, "\u0dd9", "\u0dde"⟩, ⟨0x102e, "ဥ", "ဦ"⟩,
   ⟨0x1b35, "ᬅᬇᬉᬋᬍᬑ\u1b3a\u1b3c\u1b3e\u1b3f\u1b42", "ᬆᬈᬊᬌᬎᬒ\u1b3b\u1b3d\u1b40\u1b41\u1b43"⟩,
   ⟨0x3099,
    "うかきくけこさしすせそたちつてとはひふへほゝウカキクケコサシスセソタチツテトハヒフヘホワヰヱヲヽ",
    "ゔがぎぐげござじずぜぞだぢづでどばびぶべぼゞヴガギグゲゴザジズゼゾダヂヅデドバビブベボヷヸヹヺヾ"⟩,
   ⟨0x309a, "はひふへほハヒフヘホ", "ぱぴぷぺぽパピプペポ"⟩, ⟨0x110ba, "𑂙𑂛𑂥", "𑂚𑂜𑂫"⟩, ⟨0x11127, "𑄱𑄲", "𑄮𑄯"⟩,
   ⟨0x1133e, "𑍇", "𑍋"⟩, ⟨0x11357, "𑍇", "𑍌"⟩, ⟨0x114b0, "𑒹", "𑒼"⟩, ⟨0x114ba, "𑒹", "𑒻"⟩,
   ⟨0x114bd, "𑒹", "𑒾"⟩, ⟨0x115af, "𑖸𑖹", "𑖺𑖻"⟩, ⟨0x11930, "𑤵", "𑤸"⟩]

end BlockLang.Text
