import Std.Data.HashSet

/-! # Character sets

A character set arranges characters in numbered rows of numbered cells. National standards have 94
rows of 94 cells, each counted from one; other sets take the bytes of their encoding for
the numbers.

* `CharSet.char?`: the character in a cell.
* `CharSet.chars`: all characters of a set.
* `othersFrom`: the code points that are not among given characters. -/

namespace BlockLang

/-- Neighbouring characters of a set: their row, the cell of the first one, and the characters in
order. The replacement character stands for an empty cell. -/
structure CharSet.Run where
  row : Nat
  first : Nat
  text : String
  deriving DecidableEq, Repr

/-- A character set, told by the characters that it has. -/
structure CharSet where
  runs : List CharSet.Run
  deriving DecidableEq, Repr

namespace CharSet

/-- What stands in an empty cell. -/
def hole : Char := '\ufffd'

/-- The character of a run in a cell of its row. -/
def Run.char? (r : Run) (cell : Nat) : Option Char :=
  if r.first ≤ cell then (r.text.toList[cell - r.first]?).filter (· ≠ hole) else none

/-- The character in a cell. -/
def char? (s : CharSet) (row cell : Nat) : Option Char :=
  s.runs.findSome? fun r => if r.row = row then r.char? cell else none

/-- The characters of a set. -/
def chars (s : CharSet) : List Char :=
  s.runs.flatMap fun r => r.text.toList.filter (· ≠ hole)

/-- Those of `count` code points from `first` on that are characters and not among given ones, in
order. -/
def othersFrom (first count : Nat) (known : List Char) : List Char :=
  let known := Std.HashSet.ofList (known.map Char.toNat)
  (((List.range' first count).filter (Nat.isValidChar ·)).map Char.ofNat).filter
    fun c => !known.contains c.toNat

end CharSet

end BlockLang
