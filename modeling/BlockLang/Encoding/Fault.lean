import BlockLang.Text.CodePoint

/-! # Faults in encoded texts

Why some bytes are no text in an encoding.

* `DecodingFault`: the bytes that cannot be decoded, where they are, and the reason.
* `LabelFault`: what is wrong with a label of a domain name.
* `DecodingError`: one of these, a reason against the bytes as a whole, or that the bytes are read
  as code points which are no text. -/

namespace BlockLang

/-- Why some bytes cannot be decoded. -/
inductive FaultReason
  | invalidStart
  | invalidContinuation
  | unexpectedEnd
  | notAscii
  | truncated
  | loneLowSurrogate
  | loneHighSurrogate
  | surrogate
  | tooLarge
  | undefinedByte
  | illegalSequence
  | incompleteSequence
  | illFormed
  | partialCharacter
  | nonZeroPadding
  | unterminatedShift
  | specialCharacter
  | trailingBackslash
  | truncatedEscape (pattern : String)
  | illegalCharacter
  | outOfRange
  | malformedName
  | unknownName
  deriving DecidableEq, Repr

/-- The wording of a reason. -/
def FaultReason.text : FaultReason → String
  | invalidStart => "invalid start byte"
  | invalidContinuation => "invalid continuation byte"
  | unexpectedEnd => "unexpected end of data"
  | notAscii => "ordinal not in range(128)"
  | truncated => "truncated data"
  | loneLowSurrogate => "illegal encoding"
  | loneHighSurrogate => "illegal UTF-16 surrogate"
  | surrogate => "code point in surrogate code point range(0xd800, 0xe000)"
  | tooLarge => "code point not in range(0x110000)"
  | undefinedByte => "character maps to <undefined>"
  | illegalSequence => "illegal multibyte sequence"
  | incompleteSequence => "incomplete multibyte sequence"
  | illFormed => "ill-formed sequence"
  | partialCharacter => "partial character in shift sequence"
  | nonZeroPadding => "non-zero padding bits in shift sequence"
  | unterminatedShift => "unterminated shift sequence"
  | specialCharacter => "unexpected special character"
  | trailingBackslash => "\\ at end of string"
  | truncatedEscape pattern => "truncated " ++ pattern ++ " escape"
  | illegalCharacter => "illegal Unicode character"
  | outOfRange => "\\Uxxxxxxxx out of range"
  | malformedName => "malformed \\N character escape"
  | unknownName => "unknown Unicode character name"

/-- Bytes that cannot be decoded. There is at least one. -/
structure DecodingFault where
  encoding : String
  position : Nat
  first : UInt8
  more : List UInt8
  reason : FaultReason
  deriving DecidableEq, Repr

namespace DecodingFault

/-- A byte as two hexadecimal digits in lower case. -/
def hexByte (b : UInt8) : String :=
  String.ofList [Nat.digitChar (b.toNat / 16), Nat.digitChar (b.toNat % 16)]

/-- The wording of a fault. A single byte is shown, of several only the positions. -/
def message (f : DecodingFault) : String :=
  "'" ++ f.encoding ++ "' codec can't decode " ++
    (if f.more.isEmpty then "byte 0x" ++ hexByte f.first ++ " in position " ++ toString f.position
      else "bytes in position " ++ toString f.position ++ "-" ++
        toString (f.position + f.more.length)) ++
    ": " ++ f.reason.text

end DecodingFault

/-- What is wrong with a label of a domain name: it has no length that a label can have, holds a
character that labels cannot hold, is written in both directions, does not start and end in the
direction in which it is written, looks like an encoded label, or is encoded in another way than
the text for which it stands. -/
inductive LabelFault
  | badLength
  | prohibited (codePoint : Nat)
  | bothDirections
  | openDirection
  | encodedTwice
  | otherwiseEncoded (label expected : String)
  deriving DecidableEq, Repr

/-- The wording of what is wrong with a label. -/
def LabelFault.message : LabelFault → String
  | badLength => "label empty or too long"
  | prohibited n => "Invalid character " ++ Text.quotedCode n
  | bothDirections => "Violation of BIDI requirement 2"
  | openDirection => "Violation of BIDI requirement 3"
  | encodedTwice => "Label starts with ACE prefix"
  | otherwiseEncoded label expected =>
      "('IDNA does not round-trip', b" ++ Text.quoted label ++ ", b" ++ Text.quoted expected ++ ")"

/-- Why some bytes are no text. In the last case they are read without a failure, as code points
among which there are surrogates. -/
inductive DecodingError
  | fault (f : DecodingFault)
  | missingMark (family : String)
  | incompleteNumber
  | invalidDigit (c : Char)
  | invalidCodePoint (n : Nat)
  | badLabel (cause : DecodingError)
  | label (f : LabelFault)
  | unreadableSet
  | undefinedEncoding
  | surrogates (points : List CodePoint)
  deriving DecidableEq, Repr

/-- The wording of a decoding error. -/
def DecodingError.message : DecodingError → String
  | fault f => f.message
  | missingMark family => family ++ " stream does not start with BOM"
  | incompleteNumber => "incomplete punicode string"
  | invalidDigit c => "Invalid extended code point '" ++ c.toString ++ "'"
  | invalidCodePoint n =>
      "Invalid character U+" ++ String.ofList (Nat.toDigits 16 n)
  | badLabel cause =>
      "decoding with 'punycode' codec failed (UnicodeError: " ++ cause.message ++ ")"
  | label f => f.message
  | unreadableSet => "internal codec error"
  | undefinedEncoding => "undefined encoding"
  | surrogates _ => "surrogates not allowed"

/-- What decoding gives: characters or code points, or why there are none. -/
abbrev Decoding (α : Type) := Except DecodingError (List α)

/-- A decoded text. -/
abbrev Decoded := Decoding Char

namespace Decoding

variable {α : Type}

/-- The failure of decoding at some bytes. -/
def fault (encoding : String) (position : Nat) (first : UInt8) (more : List UInt8)
    (reason : FaultReason) : Decoding α :=
  .error (.fault ⟨encoding, position, first, more, reason⟩)

/-- What is decoded, with some more before it. -/
def after (xs : List α) (rest : Decoding α) : Decoding α := rest.map (xs ++ ·)

/-- What the code points with some numbers are as a text. -/
def ofNumbers (numbers : List Nat) : Decoded :=
  let points := numbers.map CodePoint.ofNat
  match CodePoint.text? points with
  | some text => .ok text
  | none => .error (.surrogates points)

end Decoding

end BlockLang
