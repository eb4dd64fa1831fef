import BlockLang.Encoding.ByteOrder
import BlockLang.Encoding.Fault

/-! # UTF-16

A character is one unit of two bytes, or a *high surrogate* followed by a *low surrogate*. The
bytes of a unit come in one of two orders, which a byte order mark at the start tells.

* `pairValue`: the code point of two surrogates.
* `decodeFrom`, `decodeMarked`: the text that some bytes encode. -/

namespace BlockLang.Utf16

/-- Whether a unit is the first half of a character. -/
def isHigh (unit : Nat) : Bool := 0xd800 ≤ unit && unit < 0xdc00

/-- Whether a unit is the second half of a character. -/
def isLow (unit : Nat) : Bool := 0xdc00 ≤ unit && unit < 0xe000

/-- The code point of two halves. -/
def pairValue (high low : Nat) : Nat := 0x10000 + 0x400 * (high - 0xd800) + (low - 0xdc00)

/-- The name of the encoding with a given byte order. -/
def encodingName (order : ByteOrder) : String := "utf-16" ++ order.suffix

/-- The text that some bytes encode, the first of which is at a given position. -/
def decodeFrom (order : ByteOrder) (position : Nat) : List UInt8 → Decoded
  | [] => .ok []
  | [a] => .fault (encodingName order) position a [] .truncated
  | a :: b :: rest =>
    let unit := order.value [a, b]
    if isHigh unit then
      match rest with
      | c :: d :: rest =>
        let low := order.value [c, d]
        if isLow low then
          (decodeFrom order (position + 4) rest).after [Char.ofNat (pairValue unit low)]
        else .fault (encodingName order) position a [b] .loneHighSurrogate
      | rest => .fault (encodingName order) position a (b :: rest) .unexpectedEnd
    else if isLow unit then .fault (encodingName order) position a [b] .loneLowSurrogate
    else (decodeFrom order (position + 2) rest).after [Char.ofNat unit]

/-- The text that some bytes encode after a byte order mark. Bytes without a mark are read with the
least significant byte first, to find a fault in them; if there is none, the mark is missing. -/
def decodeMarked : List UInt8 → Decoded
  | [] => .ok []
  | 0xff :: 0xfe :: rest => decodeFrom .little 2 rest
  | 0xfe :: 0xff :: rest => decodeFrom .big 2 rest
  | bytes => (decodeFrom .little 0 bytes).bind fun _ => .error (.missingMark "UTF-16")

end BlockLang.Utf16
