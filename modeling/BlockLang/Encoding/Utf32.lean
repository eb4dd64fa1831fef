import BlockLang.Encoding.ByteOrder
import BlockLang.Encoding.Fault

/-! # UTF-32

A character is its code point as a number of four bytes. The bytes come in one of two orders, which
a byte order mark at the start tells. -/

namespace BlockLang.Utf32

/-- The name of the encoding with a given byte order. -/
def encodingName (order : ByteOrder) : String := "utf-32" ++ order.suffix

/-- Why a number is no character, if it is none. -/
def reasonAgainst? (n : Nat) : Option FaultReason :=
  if 0xd800 ≤ n ∧ n < 0xe000 then some .surrogate
  else if 0x110000 ≤ n then some .tooLarge
  else none

/-- The text that some bytes encode, the first of which is at a given position. -/
def decodeFrom (order : ByteOrder) (position : Nat) : List UInt8 → Decoded
  | [] => .ok []
  | a :: b :: c :: d :: rest =>
    let n := order.value [a, b, c, d]
    match reasonAgainst? n with
    | some reason => .fault (encodingName order) position a [b, c, d] reason
    | none => (decodeFrom order (position + 4) rest).after [Char.ofNat n]
  | a :: rest => .fault (encodingName order) position a rest .truncated

/-- The text that some bytes encode after a byte order mark. Bytes without a mark are read with the
least significant byte first, to find a fault in them; if there is none, the mark is missing. -/
def decodeMarked : List UInt8 → Decoded
  | [] => .ok []
  | 0xff :: 0xfe :: 0 :: 0 :: rest => decodeFrom .little 4 rest
  | 0 :: 0 :: 0xfe :: 0xff :: rest => decodeFrom .big 4 rest
  | bytes => (decodeFrom .little 0 bytes).bind fun _ => .error (.missingMark "UTF-32")

end BlockLang.Utf32
