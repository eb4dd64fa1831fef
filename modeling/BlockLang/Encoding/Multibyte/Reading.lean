import BlockLang.Encoding.CharSet.Basic
import BlockLang.Encoding.Fault

/-! # Reading characters of several bytes

Most encodings of national character sets write a character as one, two or more bytes, and some of
them keep a state from one character to the next.

* `Reading`: what some bytes start with.
* `decodeFrom`: the text that some bytes encode, by reading it character by character.
* `readAscii`: the reading of encodings in which a byte below `0x80` is ASCII. -/

namespace BlockLang.Multibyte

/-- What some bytes start with: a text, told with the number of bytes after the first one that
belong to it and with the next state; the beginning of a character that is cut off; bytes that are
no character, told by their number after the first one; or bytes that put an end to reading. -/
inductive Reading (State : Type)
  | text (cs : List Char) (more : Nat) (next : State)
  | incomplete
  | illegal (more : Nat)
  | failure (error : DecodingError)
  deriving DecidableEq, Repr

/-- The text that some bytes encode, the first of which is at a given position, from a given state
on. -/
def decodeFrom {State : Type} (encoding : String)
    (read : State → UInt8 → List UInt8 → Reading State) (position : Nat) (state : State) :
    List UInt8 → Decoded
  | [] => .ok []
  | b :: rest =>
    match read state b rest with
    | .text cs more next =>
      (decodeFrom encoding read (position + 1 + more) next (rest.drop more)).after cs
    | .incomplete => .fault encoding position b rest .incompleteSequence
    | .illegal more => .fault encoding position b (rest.take more) .illegalSequence
    | .failure error => .error error
termination_by bytes => bytes.length
decreasing_by simp only [List.length_drop, List.length_cons]; omega

/-- The text that some bytes encode, by a reading without a state. -/
def decodeAll (encoding : String) (read : UInt8 → List UInt8 → Reading Unit) :
    List UInt8 → Decoded :=
  decodeFrom encoding (fun _ => read) 0 ()

/-- A character of a given number of bytes after the first one, if there is one. -/
def Reading.ofChar? (more : Nat) : Option Char → Reading Unit
  | some c => .text [c] more ()
  | none => .illegal 0

/-- A text of a given number of bytes after the first one, if there is one. -/
def Reading.ofText? (more : Nat) : Option (List Char) → Reading Unit
  | some cs => .text cs more ()
  | none => .illegal 0

/-- The reading of a character of two bytes by a table of them. -/
def readPair (char? : Nat → Nat → Option Char) (lead : UInt8) : List UInt8 → Reading Unit
  | [] => .incomplete
  | trail :: _ => .ofChar? 1 (char? lead.toNat trail.toNat)

/-- A byte below `0x80` as ASCII, and another one by a given reading. -/
def readAscii (other : UInt8 → List UInt8 → Reading Unit) (b : UInt8) (rest : List UInt8) :
    Reading Unit :=
  if b < 0x80 then .text [Char.ofNat b.toNat] 0 () else other b rest

/-- The text of an encoding with ASCII and characters of two bytes. -/
def decodePairs (encoding : String) (char? : Nat → Nat → Option Char) : List UInt8 → Decoded :=
  decodeAll encoding (readAscii (readPair char?))

/-- The character of a national standard whose row and cell are told by two bytes above `0xa0`. -/
def highChar? (set : CharSet) (lead trail : Nat) : Option Char :=
  set.char? (lead - 0xa0) (trail - 0xa0)

end BlockLang.Multibyte
