import BlockLang.Encoding.Utf16

/-! # UTF-7

Most ASCII characters stand for themselves. A `+` opens a *shift section*, in which the units of
UTF-16 are written six bits to a character; the section ends with the first character that has no
six bits, and a `-` there is dropped. `+-` stands for `+`.

* `Shift`: an open section.
* `Shift.push`: one more character in a section.
* `Shift.flawAtEnd?`: what is wrong with a section that ends.
* `decodeFrom`: the code points that some bytes encode, with surrogates that have no partner.
* `decode`: the text that some bytes encode. -/

namespace BlockLang.Utf7

/-- The six bits that a byte of a section has. -/
def sextet? (b : UInt8) : Option Nat :=
  let n := b.toNat
  if 0x41 ≤ n ∧ n ≤ 0x5a then some (n - 0x41)
  else if 0x61 ≤ n ∧ n ≤ 0x7a then some (n - 0x61 + 26)
  else if 0x30 ≤ n ∧ n ≤ 0x39 then some (n - 0x30 + 52)
  else if n = 0x2b then some 62
  else if n = 0x2f then some 63
  else none

/-- An open section: the position of its `+`, the bytes after that, the last one first, the bits
that have not made a unit yet, and a high surrogate that waits for its partner. -/
structure Shift where
  position : Nat
  taken : List UInt8 := []
  bits : Nat := 0
  buffer : Nat := 0
  high : Option Nat := none
  deriving DecidableEq, Repr

namespace Shift

/-- The code points that a unit completes after a high surrogate, and the surrogate that waits
next. -/
def complete (high : Option Nat) (unit : Nat) : List Nat × Option Nat :=
  match high with
  | some h =>
    if Utf16.isLow unit then ([Utf16.pairValue h unit], none)
    else if Utf16.isHigh unit then ([h], some unit)
    else ([h, unit], none)
  | none => if Utf16.isHigh unit then ([], some unit) else ([unit], none)

/-- One more byte with six bits: the code points that it completes, and the section after it. -/
def push (s : Shift) (b : UInt8) (sextet : Nat) : List Nat × Shift :=
  let taken := b :: s.taken
  let bits := s.bits + 6
  let buffer := 64 * s.buffer + sextet
  if bits < 16 then ([], { s with taken, bits, buffer })
  else
    let (ns, high) := complete s.high (buffer / Nat.pow 2 (bits - 16))
    (ns, { s with taken, high, bits := bits - 16, buffer := buffer % Nat.pow 2 (bits - 16) })

/-- What is wrong with a section that another character ends. -/
def flaw? (s : Shift) : Option FaultReason :=
  if 6 ≤ s.bits then some .partialCharacter
  else if 0 < s.bits ∧ s.buffer ≠ 0 then some .nonZeroPadding
  else none

/-- The failure of decoding in a section, at its bytes and some more. -/
def fault (s : Shift) (more : List UInt8) (reason : FaultReason) : Decoding Nat :=
  .fault "utf7" s.position 0x2b (s.taken.reverse ++ more) reason

end Shift

/-- What a byte outside of sections does: it stands for a character, or opens a section. -/
def direct? (position : Nat) (b : UInt8) : Option (List Nat × Option Shift) :=
  if b = 0x2b then some ([], some { position })
  else if b < 0x80 then some ([b.toNat], none)
  else none

/-- What a byte does that ends a section and has no six bits. -/
def close? (position : Nat) (s : Shift) (b : UInt8) : Option (List Nat × Option Shift) :=
  if b = 0x2d then some (s.high.toList, none)
  else (direct? position b).map fun (ns, next) => (s.high.toList ++ ns, next)

/-- The code points that some bytes encode, the first of which is at a given position and in a
section if one is given. -/
def decodeFrom (position : Nat) : Option Shift → List UInt8 → Decoding Nat
  | none, [] => .ok []
  | some s, [] =>
    if s.high.isSome ∨ s.flaw?.isSome then s.fault [] .unterminatedShift else .ok []
  | none, b :: rest =>
    match direct? position b with
    | some (ns, next) => (decodeFrom (position + 1) next rest).after ns
    | none => .fault "utf7" position b [] .specialCharacter
  | some s, b :: rest =>
    match sextet? b with
    | some sextet =>
      let (ns, next) := s.push b sextet
      (decodeFrom (position + 1) (some next) rest).after ns
    | none =>
      if s.taken = [] then
        if b = 0x2d then (decodeFrom (position + 1) none rest).after [0x2b]
        else s.fault [b] .illFormed
      else
        match s.flaw? with
        | some reason => s.fault [b] reason
        | none =>
          match close? position s b with
          | some (ns, next) => (decodeFrom (position + 1) next rest).after ns
          | none => .fault "utf7" position b [] .specialCharacter

/-- The text that some bytes encode. -/
def decode (bytes : List UInt8) : Decoded := (decodeFrom 0 none bytes).bind Decoding.ofNumbers

end BlockLang.Utf7
