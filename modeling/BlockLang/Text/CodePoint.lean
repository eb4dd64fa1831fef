import BlockLang.Text.Quoted

/-! # Code points

A code point is a character, or a *surrogate*, which is half of a character in UTF-16 and none by
itself. Some encodings have surrogates, so that what is read in them need not be made of characters.

* `CodePoint`: a code point; `CodePoint.text?`: the text that some code points are, if no surrogate
  is among them.
* `CodePoint.through`: what code points become where characters become a text. The surrogates have
  characters in their place while that is done.
* `CodePoint.escaped`, `CodePoint.writingFault?`: code points are written with their surrogates
  escaped, or not at all. -/

namespace BlockLang

/-- A code point: a character, or the surrogate with a number among all of them. -/
inductive CodePoint
  | char (c : Char)
  | surrogate (n : Fin 0x800)
  deriving DecidableEq, Repr

namespace CodePoint

/-- The code point with a given number. -/
def ofNat (n : Nat) : CodePoint :=
  if h : 0xd800 ≤ n ∧ n < 0xe000 then surrogate ⟨n - 0xd800, by omega⟩ else char (Char.ofNat n)

/-- Whether a code point is a surrogate. -/
def isSurrogate : CodePoint → Bool
  | char _ => false
  | surrogate _ => true

/-- The character that a code point is. -/
def char? : CodePoint → Option Char
  | char c => some c
  | surrogate _ => none

/-- The text that some code points are, if no surrogate is among them. -/
def text? (points : List CodePoint) : Option (List Char) := points.mapM char?

/-! ### Stand-ins -/

/-- A character in the place of a code point: a character for itself, and for a surrogate the one
with its number in a plane of private use. -/
def standIn (plane : Nat) : CodePoint → Char
  | char c => c
  | surrogate n => Char.ofNat (0x10000 * plane + n)

/-- The code point that has two characters in its place, one in each plane of private use. -/
def ofStandIns (c d : Char) : CodePoint :=
  if c = d then char c else surrogate (Fin.ofNat _ (c.toNat - 0xf0000))

/-- What some code points become where a text becomes `f text`. No rule of a scan, a check or a
report tells surrogates and characters of private use apart, so the code points are given to `f`
with such characters for the surrogates; this is done in two ways, and where the results differ,
there is a surrogate. -/
def through (f : List Char → List Char) (points : List CodePoint) : List CodePoint :=
  List.zipWith ofStandIns (f (points.map (standIn 0xf))) (f (points.map (standIn 0x10)))

/-! ### Writing -/

/-- The number of a surrogate among all code points. -/
def surrogateNumber (n : Fin 0x800) : Nat := 0xd800 + n

/-- Some code points with their surrogates escaped. -/
def escaped (points : List CodePoint) : List Char :=
  points.flatMap fun
    | char c => [c]
    | surrogate n => '\\' :: 'u' :: Text.hexDigits 4 (surrogateNumber n)

/-- Surrogates that cannot be written: the first of them, its place, and how many more come right
behind it. -/
structure WritingFault where
  first : Fin 0x800
  position : Nat
  more : Nat
  deriving DecidableEq, Repr

/-- The wording of a fault in writing. A single surrogate is shown, of several only the places. -/
def WritingFault.message (f : WritingFault) : String :=
  "'utf-8' codec can't encode " ++
    (if f.more = 0 then "character " ++ Text.quotedCode (surrogateNumber f.first) ++
        " in position " ++ toString f.position
      else "characters in position " ++ toString f.position ++ "-" ++
        toString (f.position + f.more)) ++
    ": surrogates not allowed"

/-- What keeps some code points from being written, the first of which has a given place. -/
def writingFault? (position : Nat) : List CodePoint → Option WritingFault
  | [] => none
  | char _ :: points => writingFault? (position + 1) points
  | surrogate n :: points => some ⟨n, position, (points.takeWhile isSurrogate).length⟩

end CodePoint

end BlockLang
