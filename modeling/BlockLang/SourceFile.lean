import BlockLang.Encoding.Decode
import BlockLang.FileSystem
import BlockLang.FrontEnd
import BlockLang.Text.LineEnding
import BlockLang.Text.Shortened

/-! # Source files

A program is read from a file by its path, decoded, and given line feeds as line endings.

* `sourceOf`: the program that some text is, and `disguised`: the one that some code points are but
  for the surrogates among them.
* `readSource`: the program in a file, or why there is none (`ReadError`).
* `checkFile`: the check of a file.

A program is made of characters. Where a file is read as code points with surrogates among them,
these are given instead of a program. -/

namespace BlockLang

/-- Why a file cannot be read as a program. -/
inductive ReadError
  | notFound (path : String)
  | nameTooLong (path : String)
  | isDirectory (path : String)
  | nullInEncoding
  | unknownEncoding (name : String)
  | notTextEncoding (name : String)
  | undecodable (error : DecodingError)
  deriving DecidableEq, Repr

/-- The wording of a read error. Of the name of a coding that reads no text at most 400 bytes are
shown. -/
def ReadError.message : ReadError → String
  | notFound path => "Source file not found: " ++ path
  | nameTooLong path => "[Errno 36] File name too long: " ++ Text.quoted path
  | nullInEncoding => "embedded null character"
  | isDirectory path => "[Errno 21] Is a directory: " ++ Text.quoted path
  | unknownEncoding name => "unknown encoding: " ++ name
  | notTextEncoding name =>
      "'" ++ String.ofList (Text.shortened 400 name.toList) ++
        "' is not a text encoding; use codecs.open() to handle arbitrary codecs"
  | undecodable error => error.message

/-- What the name of a file's encoding stands for: besides the names of encodings there is `locale`,
which is UTF-8. -/
def fileCodec? (name : String) : Option Codec :=
  if name = "locale" then some (.text .utf8) else Codec.named? name

/-- The program that some text is, with line feeds only. -/
def sourceOf (text : List Char) : String := String.ofList (Text.withLineFeeds text)

/-- The program that some code points are, with characters of private use for the surrogates. -/
def disguised (points : List CodePoint) : String := sourceOf (points.map (CodePoint.standIn 0xf))

/-- The program that some bytes are in the encoding with a given name. -/
def decodeText (encoding : String) (bytes : List UInt8) : Except ReadError String :=
  match fileCodec? encoding with
  | none => .error (.unknownEncoding encoding)
  | some .bytesOnly => .error (.notTextEncoding encoding)
  | some (.text e) =>
    match e.decode bytes with
    | .error error => .error (.undecodable error)
    | .ok text => .ok (sourceOf text)

/-- The program in the file that a path leads to. The name of the encoding may not hold a null
character, which is found out before the file is opened. -/
def readSource (files : FileSystem) (encoding path : String) : Except ReadError String :=
  match files (shownPath path) with
  | .error .nameTooLong => .error (.nameTooLong (shownPath path))
  | .error .missing | .error .nullCharacter => .error (.notFound path)
  | .ok entry =>
    if '\x00' ∈ encoding.toList then .error .nullInEncoding
    else
      match entry with
      | .directory => .error (.isDirectory (shownPath path))
      | .file bytes => decodeText encoding bytes

/-- Checks the file that a path leads to. -/
def checkFile (files : FileSystem) (options : Options) (path : String) :
    Except ReadError Outcome :=
  (readSource files options.encoding path).map fun source => check options source (shownPath path)

end BlockLang
