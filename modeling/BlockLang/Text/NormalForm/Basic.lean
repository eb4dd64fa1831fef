import BlockLang.Text.NormalForm.CombiningClass
import BlockLang.Text.NormalForm.Composition
import BlockLang.Text.NormalForm.Decomposition
import BlockLang.Text.NormalForm.Syllable

/-! # The composed form of compatible texts

Texts that differ only in how their characters are put together, or in compatible variants of
characters, have one normal form. It is computed on code points, in three steps.

* `decomposition`: what a character is made of.
* `ordered`: marks in the order of their classes.
* `composed`: characters put together with marks after them.
* `normalForm`: the whole. -/

namespace BlockLang.Text

/-! ### Decomposition -/

/-- The element for a number in a list of runs, each with the number of its first element. -/
def runElement? {α : Type} (rows : List (Nat × List α)) (n : Nat) : Option α :=
  rows.findSome? fun (first, xs) => if first ≤ n then xs[n - first]? else none

/-- The other character that a code point becomes. -/
def substitute? (n : Nat) : Option Char :=
  substitutes.findSome? fun (first, lines) =>
    if first ≤ n then (lines.flatMap String.toList)[n - first]? else none

/-- The code points that a character is made of, or is compatible with. -/
def decomposition (n : Nat) : List Nat :=
  if isSyllable n then syllableLetters n
  else
    match substitute? n with
    | some c => [c.toNat]
    | none =>
      match runElement? expansions n with
      | some text => text.toList.map Char.toNat
      | none => [n]

/-! ### The order of marks -/

/-- A code point put in front of a text, behind the marks there that have a lower class. -/
def insertMark (n : Nat) : List Nat → List Nat
  | [] => [n]
  | m :: rest =>
    if 0 < combiningClass m ∧ combiningClass m < combiningClass n then m :: insertMark n rest
    else n :: m :: rest

/-- A text with its marks in the order of their classes. -/
def ordered (text : List Nat) : List Nat := text.foldr insertMark []

/-! ### Composition -/

/-- What two code points make up. -/
def composite? (n m : Nat) : Option Nat :=
  match compositionRows.find? (·.second = m) with
  | some row =>
    ((row.firsts.toList.zip row.composites.toList).find? (·.1.toNat = n)).map (·.2.toNat)
  | none => syllable? n m

/-- A character put together with what follows it, and what is left of that. A mark joins it unless
a mark between them has the same class, and a letter only if it comes next. The class of the last
mark that is left is given. -/
def absorb (n lastClass : Nat) : List Nat → Nat × List Nat
  | [] => (n, [])
  | m :: rest =>
    let markClass := combiningClass m
    let pass (lastClass : Nat) : Nat × List Nat :=
      let (whole, left) := absorb n lastClass rest
      (whole, m :: left)
    if lastClass = 0 ∨ lastClass < markClass then
      match composite? n m with
      | some whole => absorb whole lastClass rest
      | none => if markClass = 0 then (n, m :: rest) else pass markClass
    else if markClass = 0 then (n, m :: rest)
    else pass lastClass

/-- What is left of a text is no longer than the text. -/
theorem length_absorb_le (text : List Nat) (n lastClass : Nat) :
    (absorb n lastClass text).2.length ≤ text.length := by
  induction text generalizing n lastClass with
  | nil => simp [absorb]
  | cons m rest ih =>
    simp only [absorb]
    split
    · split
      · exact Nat.le_succ_of_le (ih _ _)
      · split
        · simp
        · simpa using ih _ _
    · split
      · simp
      · simpa using ih _ _

/-- A text with its characters put together. -/
def composed : List Nat → List Nat
  | [] => []
  | n :: rest => (absorb n 0 rest).1 :: composed (absorb n 0 rest).2
termination_by text => text.length
decreasing_by
  have := length_absorb_le rest n 0
  simp only [List.length_cons]
  omega

/-- The normal form of a text. -/
def normalForm (text : List Nat) : List Nat := composed (ordered (text.flatMap decomposition))

end BlockLang.Text
