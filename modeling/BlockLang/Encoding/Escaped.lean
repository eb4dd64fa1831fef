import BlockLang.Encoding.CharName.Lookup
import BlockLang.Encoding.Fault

/-! # Escaped texts

Two encodings in which a byte stands for the code point with its number, and a backslash starts an
escape. In the *full* form escapes are those of string literals; in the *raw* form there are only
`\u` with four hexadecimal digits and `\U` with eight.

* `hexEscape`: the escape of a character by hexadecimal digits.
* `nameEscape`: the escape of a character by its name.
* `decodeFull`, `decodeRaw`: the text that some bytes encode. An escape may stand for a surrogate,
  also for one half of a character right before the other. -/

namespace BlockLang.Escaped

/-- The value of a hexadecimal digit. -/
def hexValue? (b : UInt8) : Option Nat :=
  let n := b.toNat
  if 0x30 ≤ n ∧ n ≤ 0x39 then some (n - 0x30)
  else if 0x61 ≤ n ∧ n ≤ 0x66 then some (n - 0x61 + 10)
  else if 0x41 ≤ n ∧ n ≤ 0x46 then some (n - 0x41 + 10)
  else none

/-- The hexadecimal digits at the head of some bytes, at most `count` of them. -/
def hexDigits : Nat → List UInt8 → List UInt8
  | count + 1, b :: bytes => if (hexValue? b).isSome then b :: hexDigits count bytes else []
  | _, _ => []

/-- The number that some hexadecimal digits make. -/
def hexNumber (digits : List UInt8) : Nat :=
  digits.foldl (fun n b => 16 * n + (hexValue? b).getD 0) 0

/-- The octal digits at the head of some bytes, at most `count` of them. -/
def octalDigits : Nat → List UInt8 → List UInt8
  | count + 1, b :: bytes =>
    if 0x30 ≤ b ∧ b ≤ 0x37 then b :: octalDigits count bytes else []
  | _, _ => []

/-- The number that some octal digits make. -/
def octalNumber (digits : List UInt8) : Nat := digits.foldl (fun n b => 8 * n + (b.toNat - 0x30)) 0

/-- An escape: the bytes after its backslash, and the code points that they stand for. -/
structure Escape where
  taken : List UInt8
  meaning : Except FaultReason (List Nat)

/-- The escape `\xXX`, `\uXXXX` or `\UXXXXXXXX`, before some bytes. -/
def hexEscape (letter : UInt8) (count : Nat) (pattern : String) (excess : FaultReason)
    (bytes : List UInt8) : Escape :=
  let digits := hexDigits count bytes
  ⟨letter :: digits,
    if digits.length < count then .error (.truncatedEscape pattern)
    else if 0x10ffff < hexNumber digits then .error excess
    else .ok [hexNumber digits]⟩

/-- The escape of a character by its name in braces, before some bytes. -/
def nameEscape (bytes : List UInt8) : Escape :=
  match bytes with
  | 0x7b :: rest =>
    let name := rest.takeWhile (· ≠ 0x7d)
    if rest.drop name.length = [] ∨ name = [] then
      ⟨0x4e :: 0x7b :: name, .error .malformedName⟩
    else
      ⟨0x4e :: 0x7b :: name ++ [0x7d],
        match CharName.codePoint? (name.map fun b => Char.ofNat b.toNat) with
        | some n => .ok [n]
        | none => .error .unknownName⟩
  | _ => ⟨[0x4e], .error .malformedName⟩

/-- The escapes of one letter or mark, by their bytes. A line feed after a backslash is dropped. -/
def simpleEscapes : List (UInt8 × List Nat) :=
  [(0x0a, []), (0x5c, [0x5c]), (0x27, [0x27]), (0x22, [0x22]), (0x61, [0x07]), (0x62, [0x08]),
   (0x66, [0x0c]), (0x6e, [0x0a]), (0x72, [0x0d]), (0x74, [0x09]), (0x76, [0x0b])]

/-- The escape in a full form that starts with `b` after the backslash. What is no escape stands for
itself. -/
def fullEscape (b : UInt8) (bytes : List UInt8) : Escape :=
  match simpleEscapes.lookup b with
  | some ns => ⟨[b], .ok ns⟩
  | none =>
    if 0x30 ≤ b ∧ b ≤ 0x37 then
      let digits := b :: octalDigits 2 bytes
      ⟨digits, .ok [octalNumber digits]⟩
    else if b = 0x78 then hexEscape b 2 "\\xXX" .illegalCharacter bytes
    else if b = 0x75 then hexEscape b 4 "\\uXXXX" .illegalCharacter bytes
    else if b = 0x55 then hexEscape b 8 "\\UXXXXXXXX" .illegalCharacter bytes
    else if b = 0x4e then nameEscape bytes
    else ⟨[b], .ok [0x5c, b.toNat]⟩

/-- The escape in a raw form that starts with `b` after the backslash. -/
def rawEscape (b : UInt8) (bytes : List UInt8) : Escape :=
  if b = 0x75 then hexEscape b 4 "\\uXXXX" .outOfRange bytes
  else if b = 0x55 then hexEscape b 8 "\\UXXXXXXXX" .outOfRange bytes
  else ⟨[b], .ok [0x5c, b.toNat]⟩

/-- The code points that some bytes encode, with given escapes and a given meaning of a backslash at
the end; the first byte is at a given position. -/
def decodeFrom (encoding : String) (escape : UInt8 → List UInt8 → Escape)
    (atEnd : Except FaultReason (List Nat)) (position : Nat) : List UInt8 → Decoding Nat
  | [] => .ok []
  | b :: rest =>
    if b ≠ 0x5c then
      (decodeFrom encoding escape atEnd (position + 1) rest).after [b.toNat]
    else
      match rest with
      | [] =>
        match atEnd with
        | .ok ns => .ok ns
        | .error reason => .fault encoding position b [] reason
      | c :: rest =>
        let e := escape c rest
        match e.meaning with
        | .error reason => .fault encoding position b e.taken reason
        | .ok ns =>
          (decodeFrom encoding escape atEnd (position + 1 + e.taken.length)
            (rest.drop (e.taken.length - 1))).after ns
termination_by bytes => bytes.length
decreasing_by
  · simp only [List.length_cons]; omega
  · simp only [List.length_drop, List.length_cons]; omega

/-- The text that some bytes encode in the full form. -/
def decodeFull (bytes : List UInt8) : Decoded :=
  (decodeFrom "unicodeescape" fullEscape (.error .trailingBackslash) 0 bytes).bind
    Decoding.ofNumbers

/-- The text that some bytes encode in the raw form. -/
def decodeRaw (bytes : List UInt8) : Decoded :=
  (decodeFrom "rawunicodeescape" rawEscape (.ok [0x5c]) 0 bytes).bind Decoding.ofNumbers

end BlockLang.Escaped
