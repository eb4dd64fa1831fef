import BlockLang.Encoding.DomainName.Label
import BlockLang.Encoding.Escaped
import BlockLang.Encoding.Name
import BlockLang.Encoding.Utf16
import BlockLang.Encoding.Utf32
import BlockLang.Encoding.Utf7
import BlockLang.Encoding.Utf8

/-! # Decoding

The text that some bytes are in a given encoding, or what is wrong with them. -/

namespace BlockLang.Encoding

/-- The text that some bytes are, each byte for itself; `none` is a byte without a character. -/
def decodeBytes (name : String) (reason : FaultReason) (char? : UInt8 → Option Char)
    (position : Nat) : List UInt8 → Decoded
  | [] => .ok []
  | b :: bytes =>
    match char? b with
    | some c => (decodeBytes name reason char? (position + 1) bytes).after [c]
    | none => .fault name position b [] reason

/-- The ASCII character of a byte. -/
def asciiChar? (b : UInt8) : Option Char :=
  if b < 0x80 then some (Char.ofNat b.toNat) else none

/-- The text that some bytes are in an encoding. -/
def decode : Encoding → List UInt8 → Decoded
  | ascii => decodeBytes "ascii" .notAscii asciiChar? 0
  | latin1 => fun bytes => .ok (bytes.map fun b => Char.ofNat b.toNat)
  | codePage page => decodeBytes "charmap" .undefinedByte page.char? 0
  | utf7 => Utf7.decode
  | utf8 => Utf8.decode
  | utf8Marked => Utf8.decodeMarked
  | utf16 order => Utf16.decodeFrom order 0
  | utf16Marked => Utf16.decodeMarked
  | utf32 order => Utf32.decodeFrom order 0
  | utf32Marked => Utf32.decodeMarked
  | escaped => Escaped.decodeFull
  | rawEscaped => Escaped.decodeRaw
  | punycode => Punycode.decode
  | domainName => fun bytes =>
    (decodeBytes "ascii" .notAscii asciiChar? 0 bytes).bind DomainName.decode
  | multibyte national => national.decode
  | undefined => fun _ => .error .undefinedEncoding

end BlockLang.Encoding
