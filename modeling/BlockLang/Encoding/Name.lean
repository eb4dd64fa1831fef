import BlockLang.Encoding.Alias
import BlockLang.Encoding.ByteOrder
import BlockLang.Encoding.CodePage.All
import BlockLang.Encoding.Multibyte.All

/-! # Encodings and their names

An encoding has several names. Names are compared in lower case, with every run of punctuation as
one underscore and none at the ends.

* `Encoding`: the encodings that texts can be read in.
* `Codec`: what a name can stand for: an encoding, or a coding of bytes that reads no text.
* `Codec.named?`: what a name stands for, if it is known. -/

namespace BlockLang

/-- The encodings of text files. A *marked* encoding has a byte order mark at its start. -/
inductive Encoding
  | ascii
  | latin1
  | codePage (page : CodePage)
  | utf7
  | utf8
  | utf8Marked
  | utf16 (order : ByteOrder)
  | utf16Marked
  | utf32 (order : ByteOrder)
  | utf32Marked
  | escaped
  | rawEscaped
  | punycode
  | domainName
  | multibyte (national : Multibyte)
  | undefined
  deriving DecidableEq, Repr

/-- What an encoding name stands for. -/
inductive Codec
  | text (encoding : Encoding)
  | bytesOnly
  deriving DecidableEq, Repr

namespace Codec

/-- Whether a character of a name is more than punctuation. -/
def isNameChar (c : Char) : Bool := c.isAlphanum || c = '.'

/-- One underscore for each run of underscores. -/
def squeeze : List Char → List Char
  | [] => []
  | c :: cs => if c = '_' ∧ cs.head? = some '_' then squeeze cs else c :: squeeze cs

/-- A name in lower case, with its words joined by single underscores. -/
def normalName (name : String) : String :=
  let words := name.toList.map fun c => if isNameChar c then c.toLower else '_'
  let trimmed := ((words.dropWhile (· = '_')).reverse.dropWhile (· = '_')).reverse
  String.ofList (squeeze trimmed)

/-- The encodings that are of no national character set, by their names. -/
def textNames : List (String × Encoding) :=
  [("ascii", .ascii), ("latin_1", .latin1), ("charmap", .latin1), ("utf_7", .utf7),
   ("utf_8", .utf8), ("utf_8_sig", .utf8Marked), ("utf_16", .utf16Marked),
   ("utf_16_le", .utf16 .little), ("utf_16_be", .utf16 .big), ("utf_32", .utf32Marked),
   ("utf_32_le", .utf32 .little), ("utf_32_be", .utf32 .big), ("unicode_escape", .escaped),
   ("raw_unicode_escape", .rawEscaped), ("punycode", .punycode), ("idna", .domainName),
   ("undefined", .undefined)]

/-- The codings of bytes that read no text. -/
def byteNames : List String :=
  ["base64_codec", "bz2_codec", "hex_codec", "quopri_codec", "rot_13", "uu_codec", "zlib_codec"]

/-- The encoding with a proper name. -/
def encodingNamed? (name : String) : Option Encoding :=
  (textNames.lookup name).or <|
    ((CodePage.all.lookup name).map .codePage).or <|
      (Multibyte.all.lookup name).map .multibyte

/-- What a proper name stands for. -/
def properlyNamed? (name : String) : Option Codec :=
  ((encodingNamed? name).map .text).or (if name ∈ byteNames then some .bytesOnly else none)

/-- A name with its points taken as punctuation. -/
def withoutPoints (name : String) : String :=
  String.ofList (name.toList.map fun c => if c = '.' then '_' else c)

/-- The proper name for a name. In another name a point may stand for an underscore. -/
def properName (name : String) : String :=
  let key := normalName name
  ((aliases.lookup key).or (aliases.lookup (withoutPoints key))).getD key

/-- What a name stands for. -/
def named? (name : String) : Option Codec := properlyNamed? (properName name)

end Codec

end BlockLang
