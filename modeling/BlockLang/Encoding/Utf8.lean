import BlockLang.Encoding.Fault

/-! # UTF-8

A character is a *lead byte* and up to three *tail bytes*. The lead byte tells how many tail bytes
there are and between which bounds each lies; the bounds of the first one keep out surrogates, long
forms and numbers past the last code point.

* `tailBounds?`: the bounds of the bytes after a lead byte.
* `matching`: the longest beginning of some bytes that keeps to some bounds.
* `value`: the code point of a lead byte and its tail.
* `decodeFrom`: the text that some bytes encode. The bytes at fault are the lead byte and the tail
  bytes that still fit it. -/

namespace BlockLang.Utf8

/-- The bounds of the bytes after a lead byte; `none` if no character starts with the byte. -/
def tailBounds? (lead : Nat) : Option (List (Nat × Nat)) :=
  if lead < 0x80 then some []
  else if lead < 0xc2 then none
  else if lead < 0xe0 then some [(0x80, 0xbf)]
  else if lead = 0xe0 then some [(0xa0, 0xbf), (0x80, 0xbf)]
  else if lead = 0xed then some [(0x80, 0x9f), (0x80, 0xbf)]
  else if lead < 0xf0 then some [(0x80, 0xbf), (0x80, 0xbf)]
  else if lead = 0xf0 then some [(0x90, 0xbf), (0x80, 0xbf), (0x80, 0xbf)]
  else if lead < 0xf4 then some [(0x80, 0xbf), (0x80, 0xbf), (0x80, 0xbf)]
  else if lead = 0xf4 then some [(0x80, 0x8f), (0x80, 0xbf), (0x80, 0xbf)]
  else none

/-- The longest beginning of some bytes that keeps to some bounds, one byte for each. -/
def matching : List (Nat × Nat) → List UInt8 → List UInt8
  | (low, high) :: bounds, b :: bytes =>
    if low ≤ b.toNat ∧ b.toNat ≤ high then b :: matching bounds bytes else []
  | _, _ => []

/-- The part of a code point that is in the lead byte. -/
def leadValue (lead tailLength : Nat) : Nat :=
  match tailLength with
  | 0 => lead
  | 1 => lead % 32
  | 2 => lead % 16
  | _ => lead % 8

/-- The code point that a lead byte and its tail encode: six bits from each byte of the tail. -/
def value (lead : UInt8) (tail : List UInt8) : Nat :=
  tail.foldl (fun n b => 64 * n + b.toNat % 64) (leadValue lead.toNat tail.length)

/-- The text that some bytes encode, the first of which is at a given position. -/
def decodeFrom (position : Nat) : List UInt8 → Decoded
  | [] => .ok []
  | lead :: rest =>
    match tailBounds? lead.toNat with
    | none => .fault "utf-8" position lead [] .invalidStart
    | some bounds =>
      let tail := matching bounds rest
      if tail.length = bounds.length then
        (decodeFrom (position + 1 + tail.length) (rest.drop tail.length)).after
          [Char.ofNat (value lead tail)]
      else if tail.length = rest.length then .fault "utf-8" position lead tail .unexpectedEnd
      else .fault "utf-8" position lead tail .invalidContinuation
termination_by bytes => bytes.length
decreasing_by simp only [List.length_drop, List.length_cons]; omega

/-- The text that some bytes encode. -/
def decode (bytes : List UInt8) : Decoded := decodeFrom 0 bytes

/-- The encoding of a text. -/
def encode (text : List Char) : List UInt8 := text.flatMap String.utf8EncodeChar

/-- The byte order mark. -/
def mark : List UInt8 := [0xef, 0xbb, 0xbf]

/-- The text that some bytes encode after a byte order mark, which may be missing. Less than a mark
is no text. -/
def decodeMarked (bytes : List UInt8) : Decoded :=
  if bytes.length < 3 ∧ bytes.isPrefixOf mark then .ok []
  else if mark.isPrefixOf bytes then decode (bytes.drop 3)
  else decode bytes

end BlockLang.Utf8
