import BlockLang.Encoding.Fault

/-! # Punycode

A text as ASCII: first its ASCII characters, then, after the last hyphen, where the others are to be
inserted. The others are inserted in the order of their code points, each told by a number that
counts the code points and places passed over since the one before; a number is written in digits
whose base depends on the place and on a *bias*, which follows the size of the numbers.

* `readNumber`: one number.
* `adapt`: the bias after a number.
* `insertAll`: the code points with all insertions made.
* `decodePoints`, `decode`: the code points and the text that some bytes encode.
* `encode`: the ASCII characters for a text. -/

namespace BlockLang.Punycode

/-- The greatest digit that is not the last of its number, at a given place. -/
def threshold (place bias : Nat) : Nat := max 1 (min 26 (36 * (place + 1) - bias))

/-- The value of a digit: letters before decimal digits, capital or not. -/
def digitValue? (c : Char) : Option Nat :=
  if 'a' ≤ c ∧ c ≤ 'z' then some (c.toNat - 'a'.toNat)
  else if 'A' ≤ c ∧ c ≤ 'Z' then some (c.toNat - 'A'.toNat)
  else if '0' ≤ c ∧ c ≤ '9' then some (c.toNat - '0'.toNat + 26)
  else none

/-- The rest of a number from a given place on, where a digit counts `weight` times, and the
characters after it. -/
def readNumber (bias place weight : Nat) : List Char → Except DecodingError (Nat × List Char)
  | [] => .error .incompleteNumber
  | c :: cs =>
    match digitValue? c with
    | none => .error (.invalidDigit c.toUpper)
    | some d =>
      let t := threshold place bias
      if d < t then .ok (d * weight, cs)
      else (readNumber bias (place + 1) (weight * (36 - t)) cs).map fun (n, rest) =>
        (n + d * weight, rest)

/-- The bias for a number that has been made small enough. -/
def biasOf (delta divisions : Nat) : Nat :=
  if 455 < delta then biasOf (delta / 35) (divisions + 36)
  else divisions + 36 * delta / (delta + 38)
termination_by delta
decreasing_by omega

/-- The bias after a number, in a text of a given length. -/
def adapt (delta : Nat) (first : Bool) (length : Nat) : Nat :=
  let scaled := delta / (if first then 700 else 2)
  biasOf (scaled + scaled / length) 0

/-- A text with the insertions made that some numbers tell, of which at most `fuel` are read. -/
def insertAll (fuel code place bias : Nat) (first : Bool) (text : List Nat) :
    List Char → Decoding Nat
  | [] => .ok text
  | cs =>
    match fuel with
    | 0 => .ok text
    | fuel + 1 =>
      match readNumber bias 0 1 cs with
      | .error e => .error e
      | .ok (delta, rest) =>
        let sum := place + delta
        let code := code + sum / (text.length + 1)
        if 0x10ffff < code then .error (.invalidCodePoint code)
        else
          let place := sum % (text.length + 1)
          let text := text.take place ++ code :: text.drop place
          insertAll fuel code (place + 1) (adapt delta first text.length) false text rest

/-- The code points that some ASCII characters and the numbers after them encode. -/
def decodeParts (basic numbers : List Char) : Decoding Nat :=
  insertAll numbers.length 0x80 0 72 true (basic.map Char.toNat) numbers

/-- The parts of a list before and after the last element equal to a given one; everything is after
it if there is none. -/
def splitAtLast (b : UInt8) (bytes : List UInt8) : List UInt8 × List UInt8 :=
  let after := (bytes.reverse.takeWhile (· ≠ b)).reverse
  ((bytes.take (bytes.length - after.length)).dropLast, after)

/-- Some bytes as ASCII characters. -/
def ascii (position : Nat) : List UInt8 → Decoded
  | [] => .ok []
  | b :: bytes =>
    if b < 0x80 then (ascii (position + 1) bytes).after [Char.ofNat b.toNat]
    else .fault "ascii" position b [] .notAscii

/-- The code points that some bytes encode. -/
def decodePoints (bytes : List UInt8) : Decoding Nat :=
  let (basic, numbers) := splitAtLast 0x2d bytes
  (ascii 0 basic).bind fun basic => (ascii 0 numbers).bind fun numbers => decodeParts basic numbers

/-- The text that some bytes encode. -/
def decode (bytes : List UInt8) : Decoded := (decodePoints bytes).bind Decoding.ofNumbers

/-! ### Encoding -/

/-- The digit with a given value. -/
def digit (d : Nat) : Char :=
  Char.ofNat (if d < 26 then 'a'.toNat + d else '0'.toNat + (d - 26))

/-- A number in digits, from a given place on. -/
def writeNumber (bias place n : Nat) : List Char :=
  let t := threshold place bias
  if n < t then [digit n]
  else digit (t + (n - t) % (36 - t)) :: writeNumber bias (place + 1) ((n - t) / (36 - t))
termination_by n
decreasing_by
  have low : 1 ≤ threshold place bias := by unfold threshold; omega
  have := Nat.div_le_self (n - threshold place bias) (36 - threshold place bias)
  omega

/-- The numbers for the places of one code point in a text, and the count of what has been passed
over since the last of them. -/
def placesOf (code passed : Nat) : List Nat → List Nat × Nat
  | [] => ([], passed)
  | n :: text =>
    if n < code then placesOf code (passed + 1) text
    else if n = code then
      let (numbers, left) := placesOf code 0 text
      (passed :: numbers, left)
    else placesOf code passed text

/-- The numbers for some code points of a text, in increasing order. All code points below `next`
have been treated; there are `length` of them. -/
def numbersOf (text : List Nat) (next length passed : Nat) : List Nat → List Nat
  | [] => []
  | code :: codes =>
    let (numbers, left) := placesOf code (passed + (code - next) * (length + 1)) text
    numbers ++ numbersOf text (code + 1) (length + numbers.length) (left + 1) codes

/-- Some numbers in digits; each stands for one more code point of a text of a given length. -/
def writeNumbers (bias : Nat) (first : Bool) (length : Nat) : List Nat → List Char
  | [] => []
  | n :: numbers =>
    writeNumber bias 0 n ++ writeNumbers (adapt n first (length + 1)) false (length + 1) numbers

/-- The ASCII characters for a text. -/
def encode (text : List Nat) : List Char :=
  let basic := text.filter (· < 0x80)
  let codes := ((text.filter (0x80 ≤ ·)).mergeSort (· ≤ ·)).eraseReps
  basic.map Char.ofNat ++ (if basic = [] then [] else ['-']) ++
    writeNumbers 72 true basic.length (numbersOf text 0x80 basic.length 0 codes)

end BlockLang.Punycode
