/-! # Names of characters

Every character has a name of capital letters, digits, hyphens and spaces. Neighbours often have
names that begin with the same words, so the names of consecutive characters are written in a short
form, a `Run`: a raised digit stands before each name and tells how many words of the name before it
are repeated. `⁰DIGIT ZERO¹ONE¹TWO` are three names.

* `Run.names`: the names of a run in full.
* `Family`: consecutive characters whose names are told by a rule. -/

namespace BlockLang.CharName

/-- The names of consecutive characters, in short form and cut into lines between names. -/
structure Run where
  first : Nat
  lines : List String

/-- The number of a raised digit. -/
def raised? (c : Char) : Option Nat :=
  match c with
  | '⁰' => some 0
  | '¹' => some 1
  | '²' => some 2
  | '³' => some 3
  | '⁴' => some 4
  | '⁵' => some 5
  | '⁶' => some 6
  | '⁷' => some 7
  | '⁸' => some 8
  | '⁹' => some 9
  | _ => none

/-- A name in short form: how many words of the name before it are repeated, and the words after
them. -/
abbrev Short := Nat × List Char

/-- The names in short form that a text holds, and the characters before the first of them. -/
def shorts : List Char → List Char × List Short
  | [] => ([], [])
  | c :: cs =>
    let (name, rest) := shorts cs
    match raised? c with
    | some kept => ([], (kept, name) :: rest)
    | none => (c :: name, rest)

/-- The first words of a name, as many as given, with the blank after each. -/
def firstWords : Nat → List Char → List Char
  | 0, _ => []
  | _ + 1, [] => [' ']
  | n + 1, ' ' :: cs => ' ' :: firstWords n cs
  | n + 1, c :: cs => c :: firstWords (n + 1) cs

/-- The names in full that follow a given name. -/
def expand (last : List Char) : List Short → List (List Char)
  | [] => []
  | (kept, rest) :: more =>
    let name := firstWords kept last ++ rest
    name :: expand name more

/-- Texts with the numbers that count them, from a given one on. -/
def numbered (first : Nat) : List String → List (String × Nat)
  | [] => []
  | name :: names => (name, first) :: numbered (first + 1) names

/-- The names of a run in full. -/
def Run.names (r : Run) : List String :=
  (expand [] (r.lines.flatMap fun line => (shorts line.toList).2)).map String.ofList

/-- Consecutive characters whose names are a stem and an ending that follows a rule. -/
structure Family where
  stem : String
  first : Nat
  last : Nat
  ending : Nat → String

/-- The names of a family. -/
def Family.names (f : Family) : List String :=
  (List.range' f.first (f.last + 1 - f.first)).map fun n => f.stem ++ f.ending n

end BlockLang.CharName
