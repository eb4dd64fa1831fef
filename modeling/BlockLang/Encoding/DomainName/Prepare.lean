import BlockLang.Encoding.DomainName.Table
import BlockLang.Encoding.Fault
import BlockLang.Text.CaseTable
import BlockLang.Text.NormalForm.Basic

/-! # The prepared form of a label

Labels that a reader takes for equal have the same prepared form: characters that count for nothing
are dropped, letters are in lower case, and the text is in normal form. The directions of its
characters have to agree.

* `fold`: a character in lower case.
* `prepare`: the prepared form of a label, or what is wrong with it. -/

namespace BlockLang.DomainName

open Text (CodeRange CaseRow)

/-- A code point in lower case, or what replaces it. -/
def fold (n : Nat) : List Nat :=
  match folded.lookup n with
  | some ns => ns
  | none => if n = 'İ'.toNat then ['i'.toNat, 0x307] else [CaseRow.map Text.lowerRows n]

/-- What a code point becomes in a prepared label: it is folded, in normal form too. -/
def mapped (n : Nat) : List Nat := (Text.normalForm (fold n)).flatMap fold

/-- Whether the directions in which the characters of a label are written agree. -/
def directionFault? (label : List Nat) : Option LabelFault :=
  let isRight := CodeRange.anyCovers rightToLeft
  if label.any isRight then
    if label.any (CodeRange.anyCovers leftToRight) then some .bothDirections
    else if label.head?.any isRight && label.getLast?.any isRight then none
    else some .openDirection
  else none

/-- The prepared form of a label. -/
def prepare (label : List Nat) : Except LabelFault (List Nat) :=
  let kept := label.filter fun n => !CodeRange.anyCovers dropped n
  let form := Text.normalForm (kept.flatMap mapped)
  match form.find? (CodeRange.anyCovers prohibited) with
  | some n => .error (.prohibited n)
  | none =>
    match directionFault? form with
    | some fault => .error fault
    | none => .ok form

end BlockLang.DomainName
