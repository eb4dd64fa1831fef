import BlockLang.Text.CaseTable

/-! # Capitalised texts

`capitalized` puts the first character of a text into title case and all others into lower case.
Both mappings can lengthen a text (`ß` becomes `Ss`), and the lower case of a capital sigma depends
on its neighbours: it is `ς` at the end of a word and `σ` elsewhere (`endsWord`). -/

namespace BlockLang.Text

/-- Whether the nearest character of a list that is not passed over has case. -/
def nearestIsCased (cs : List Char) : Bool :=
  match cs.dropWhile (CodeRange.anyContains caseIgnorable) with
  | [] => false
  | c :: _ => CodeRange.anyContains cased c

/-- Whether a letter between two texts ends a word: one stands before it, none after it. The text
before it is given backwards. -/
def endsWord (before after : List Char) : Bool := nearestIsCased before && !nearestIsCased after

/-- The lower case of a character between two texts, the one before it given backwards. -/
def lowered (before : List Char) (c : Char) (after : List Char) : List Char :=
  if c = 'Σ' then [if endsWord before after then 'ς' else 'σ']
  else if c = 'İ' then ['i', '\u0307']
  else [Char.ofNat (CaseRow.map lowerRows c.toNat)]

/-- The lower case of a text that follows `before`, which is given backwards. -/
def loweredAfter (before : List Char) : List Char → List Char
  | [] => []
  | c :: cs => lowered before c cs ++ loweredAfter (c :: before) cs

/-- The title case of a character. -/
def titled (c : Char) : List Char :=
  match longTitles.find? (·.1 = c.toNat) with
  | some (_, image) => image.map Char.ofNat
  | none => [Char.ofNat (CaseRow.map titleRows c.toNat)]

/-- A text with its first character in title case and all others in lower case. -/
def capitalized (text : String) : String :=
  match text.toList with
  | [] => ""
  | c :: cs => String.ofList (titled c ++ loweredAfter [c] cs)

end BlockLang.Text
