/-! # Control sequences

A terminal takes a text that starts with an escape character and `[`, has parameters and ends with a
letter as a *control sequence*, which is not shown. -/

namespace BlockLang.Text

/-- Whether a character can be part of the parameters of a control sequence. -/
def isParameter (c : Char) : Bool := c.isDigit || c = ';' || c = '?'

/-- What follows the control sequence whose parameters are at the head of a text, if a letter ends
it. -/
def afterParameters? (text : List Char) : Option (List Char) :=
  match text.dropWhile isParameter with
  | c :: rest => if c.isAlpha then some rest else none
  | [] => none

theorem length_lt_of_afterParameters? {text rest : List Char}
    (h : afterParameters? text = some rest) : rest.length < text.length := by
  unfold afterParameters? at h
  have hd := (List.dropWhile_sublist isParameter (l := text)).length_le
  split at h
  · rename_i hc
    rw [hc, List.length_cons] at hd
    split at h
    · obtain rfl := Option.some.inj h
      omega
    · exact absurd h (by simp)
  · exact absurd h (by simp)

/-- What follows the control sequence at the head of a text, if there is one. -/
def afterSequence? : List Char → Option (List Char)
  | '\x1b' :: '[' :: rest => afterParameters? rest
  | _ => none

theorem length_lt_of_afterSequence? {text rest : List Char}
    (h : afterSequence? text = some rest) : rest.length < text.length := by
  unfold afterSequence? at h
  split at h
  · have := length_lt_of_afterParameters? h
    simp only [List.length_cons]
    omega
  · exact absurd h (by simp)

/-- A text without its control sequences. What is left is not searched again. -/
def withoutControlSequences (text : List Char) : List Char :=
  match text with
  | [] => []
  | c :: cs =>
    match h : afterSequence? (c :: cs) with
    | some rest =>
      have : rest.length < (c :: cs).length := length_lt_of_afterSequence? h
      withoutControlSequences rest
    | none => c :: withoutControlSequences cs
termination_by text.length
decreasing_by
  · exact this
  · exact Nat.lt_succ_self _

end BlockLang.Text
