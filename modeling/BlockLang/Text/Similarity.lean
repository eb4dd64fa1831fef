/-! # Similar texts

How alike two texts are, and which of some texts are close to a given one.

* `longestCommon`: the longest run of characters that two texts share, the earliest one if there are
  several.
* `sharedLength`: the length of that run and, to its left and right, of the runs found in the same
  way.
* `isCloser`: the order of texts by the part of them that is shared.
* `closeMatches`: the texts of which three fifths or more are shared, at most three of them. -/

namespace BlockLang.Text

/-- The length of the longest common beginning of two texts. -/
def commonStart : List Char → List Char → Nat
  | a :: as, b :: bs => if a = b then commonStart as bs + 1 else 0
  | _, _ => 0

/-- A common run of characters: where it starts in either text, and its length. -/
structure CommonRun where
  left : Nat
  right : Nat
  length : Nat
  deriving DecidableEq, Repr

/-- The common runs of two texts: the longest at each pair of places, in the order of the places. -/
def commonRuns (a b : List Char) : List CommonRun :=
  (List.range a.length).flatMap fun i =>
    (List.range b.length).map fun j => ⟨i, j, commonStart (a.drop i) (b.drop j)⟩

/-- The longest common run of two texts, the first one of several. -/
def longestCommon (a b : List Char) : CommonRun :=
  (commonRuns a b).foldl (fun best run => if best.length < run.length then run else best) ⟨0, 0, 0⟩

/-- The number of characters that two texts share: those of the longest common run, and those shared
before it and after it. -/
def sharedLength (a b : List Char) : Nat :=
  match longestCommon a b with
  | ⟨i, j, n⟩ =>
    if _h : 0 < n ∧ i < a.length then
      sharedLength (a.take i) (b.take j) + n + sharedLength (a.drop (i + n)) (b.drop (j + n))
    else 0
termination_by a.length
decreasing_by
  · rw [List.length_take]; omega
  · rw [List.length_drop]; omega

/-- A text, the number of characters that it shares with another, and the length of both. -/
structure Candidate where
  text : String
  shared : Nat
  total : Nat
  deriving DecidableEq, Repr

/-- A text as a candidate to replace a given one. -/
def candidate (word text : String) : Candidate :=
  ⟨text, sharedLength text.toList word.toList, text.length + word.length⟩

/-- Whether three fifths or more of a candidate are shared. -/
def Candidate.isClose (c : Candidate) : Bool := 3 * c.total ≤ 10 * c.shared

/-- Whether a candidate goes before another: by the shared part, then by the text, the greater one
first. -/
def isCloser (c d : Candidate) : Bool :=
  d.shared * c.total < c.shared * d.total ||
    (d.shared * c.total == c.shared * d.total && !(c.text < d.text))

/-- The texts that are close to a given one, in alphabetic order; of more than three the closest. -/
def closeMatches (word : String) (texts : List String) : List String :=
  let close := (texts.map (candidate word)).filter Candidate.isClose
  (((close.mergeSort isCloser).take 3).map Candidate.text).mergeSort fun a b => !(b < a)

end BlockLang.Text
