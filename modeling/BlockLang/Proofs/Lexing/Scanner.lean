import BlockLang.Proofs.Lexing.Segmentation

/-! # A scanner

The scan of a program text by positions: a scanner looks at the character where it is, and reads on
character by character. It counts the lines that it has ended, in whatever it reads. Looking behind
the end of the text shows nothing, but reading there fails.

* `Scanner`: a position in a text, the line there, and what was found so far.
* `Scanner.peek?`, `Scanner.read?`, `Scanner.take?`: the moves.
* `Scanner.ahead`: the text that has not been read. A character is read iff one is ahead
  (`Scanner.read?_of_ahead`, `Scanner.read?_eq_none_iff`), and `Scanner.past` is the scanner behind
  some text.
* `Scanner.comment?`, `Scanner.string?`, `Scanner.char?`: what is read by loops of its own. None of
  them fails behind its opening, and each reads what `blockEnd?`, `stringBody` and `charBody` tell
  (`Scanner.skipLine?_eq`, `Scanner.skipBlock?_eq`, `Scanner.string?_of_ahead`,
  `Scanner.char?_of_ahead`). -/

namespace BlockLang

/-- A scan of a text: where it is, the line there, and what was found so far. -/
structure Scanner where
  source : List Char
  position : Nat := 0
  line : Int := 1
  findings : List Finding := []
  deriving DecidableEq, Repr

namespace Scanner

/-- The scanner at the first character of a text. -/
def start (source : List Char) : Scanner where
  source := source

/-! ### Moves -/

/-- Whether there is nothing to be read any more. -/
def atEnd (s : Scanner) : Bool := s.source.length ≤ s.position

/-- The character some places behind the position, if the text has one there. -/
def peek? (s : Scanner) (offset : Nat) : Option Char := s.source[s.position + offset]?

/-- Reads the character at the position, and counts the line that it may end. Where the text has
ended there is no character, and reading fails. -/
def read? (s : Scanner) : Option (Char × Scanner) :=
  s.source[s.position]?.map fun c =>
    (c, { s with position := s.position + 1, line := if c = '\n' then s.line + 1 else s.line })

/-- Reads some characters one by one. -/
def readTimes? : Nat → Scanner → Option Scanner
  | 0, s => some s
  | n + 1, s => do
    let (_, s) ← s.read?
    readTimes? n s

/-- Reads what an automaton has matched. -/
def take? (s : Scanner) (n : Nat) : Option (List Char × Scanner) := do
  let s' ← readTimes? n s
  return ((s.source.drop s.position).take n, s')

/-- Reports some problems. -/
def reporting (s : Scanner) (line : Int) (ps : List Problem) : Scanner :=
  { s with findings := s.findings ++ ps.map (⟨line, ·⟩) }

/-! ### What is ahead -/

/-- The text that has not been read. -/
def ahead (s : Scanner) : List Char := s.source.drop s.position

/-- The scanner behind some text that was ahead. -/
def past (s : Scanner) (text : List Char) : Scanner :=
  { s with position := s.position + text.length, line := s.line + lineBreaks text }

variable {s s' : Scanner} {c : Char} {text rest piece : List Char}

theorem past_nil (s : Scanner) : s.past [] = s := by simp [past, lineBreaks]

theorem past_past (s : Scanner) (text text' : List Char) :
    (s.past text).past text' = s.past (text ++ text') := by
  simp [past, lineBreaks_append, Nat.add_assoc, Int.add_assoc]

theorem reporting_nil (s : Scanner) (line : Int) : s.reporting line [] = s := by simp [reporting]

theorem ahead_past (h : s.ahead = text ++ rest) : (s.past text).ahead = rest := by
  show s.source.drop (s.position + text.length) = rest
  rw [← List.drop_drop, ← ahead, h, List.drop_left]

theorem peek?_eq (s : Scanner) (offset : Nat) : s.peek? offset = s.ahead[offset]? :=
  List.getElem?_drop.symm

theorem atEnd_iff : s.atEnd = true ↔ s.ahead = [] := by
  rw [atEnd, decide_eq_true_eq, ahead, List.drop_eq_nil_iff]

theorem not_atEnd (h : s.ahead = c :: rest) : ¬s.atEnd = true := by
  rw [atEnd_iff, h]
  exact List.cons_ne_nil _ _

theorem read?_of_ahead (h : s.ahead = c :: rest) : s.read? = some (c, s.past [c]) := by
  have hget : s.source[s.position]? = some c := by
    rw [← List.head?_drop, ← ahead, h, List.head?_cons]
  have hline : s.line + (lineBreaks [c] : Int) = if c = '\n' then s.line + 1 else s.line := by
    by_cases hc : c = '\n' <;> simp [lineBreaks, hc]
  rw [read?, hget, Option.map_some, past, hline]
  rfl

theorem exists_read? (h : ¬s.atEnd = true) :
    ∃ c rest, s.ahead = c :: rest ∧ s.read? = some (c, s.past [c]) := by
  obtain ⟨c, rest, hahead⟩ := List.exists_cons_of_ne_nil fun hnil => h (atEnd_iff.mpr hnil)
  exact ⟨c, rest, hahead, read?_of_ahead hahead⟩

/-- **Reading fails where the text has ended**, and nowhere else. -/
theorem read?_eq_none_iff : s.read? = none ↔ s.atEnd = true := by
  constructor
  · intro hnone
    by_contra hgo
    obtain ⟨c, rest, -, hread⟩ := exists_read? hgo
    rw [hread] at hnone
    cases hnone
  · intro hend
    rw [read?, List.getElem?_eq_none (of_decide_eq_true hend), Option.map_none]

theorem of_read? (h : s.read? = some (c, s')) : s' = s.past [c] ∧ s.ahead = c :: s'.ahead := by
  have hend : ¬s.atEnd = true := by
    intro hend
    rw [read?_eq_none_iff.mpr hend] at h
    cases h
  obtain ⟨d, rest, hahead, hread⟩ := exists_read? hend
  rw [hread] at h
  obtain ⟨rfl, rfl⟩ := Prod.mk.inj (Option.some.inj h)
  exact ⟨rfl, by rw [ahead_past hahead, hahead]⟩

theorem length_ahead_of_read? (h : s.read? = some (c, s')) :
    s'.ahead.length < s.ahead.length := by
  rw [(of_read? h).2]
  exact Nat.lt_succ_self _

theorem readTimes?_of_ahead : ∀ {text rest : List Char} {s : Scanner}, s.ahead = text ++ rest →
    readTimes? text.length s = some (s.past text)
  | [], _, s, _ => by rw [past_nil]; rfl
  | c :: text, rest, s, h => by
    have hrest : (s.past [c]).ahead = text ++ rest := ahead_past h
    have htext := readTimes?_of_ahead hrest
    rw [past_past] at htext
    simp [readTimes?, read?_of_ahead h, htext]

theorem take?_of_ahead (h : s.ahead = text ++ rest) :
    s.take? text.length = some (text, s.past text) := by
  have htext : (s.source.drop s.position).take text.length = text := by
    rw [← ahead, h, List.take_left]
  simp [take?, readTimes?_of_ahead h, htext]

/-! ### Comments -/

/-- Skips what is left of a line, up to the line feed. -/
def skipLine? (s : Scanner) : Option Scanner :=
  if s.atEnd ∨ s.peek? 0 = some '\n' then some s
  else
    match h : s.read? with
    | none => none
    | some (_, s') =>
      have := length_ahead_of_read? h
      skipLine? s'
termination_by s.ahead.length

/-- Skips a comment up to and including `*/`. Where the text ends before it, the comment is reported
on the line where it starts. -/
def skipBlock? (s : Scanner) (line : Int) : Option Scanner :=
  if s.atEnd then some (s.reporting line [.unclosedComment])
  else if s.peek? 0 = some '*' ∧ s.peek? 1 = some '/' then readTimes? 2 s
  else
    match h : s.read? with
    | none => none
    | some (_, s') =>
      have := length_ahead_of_read? h
      skipBlock? s' line
termination_by s.ahead.length

/-- Skips a comment. -/
def comment? (s : Scanner) : Option Scanner := do
  let (_, s₁) ← s.read?
  let (c, s₂) ← s₁.read?
  if c = '/' then s₂.skipLine? else s₂.skipBlock? s.line

theorem skipLine?_eq (s : Scanner) :
    s.skipLine? = some (s.past (s.ahead.takeWhile (· ≠ '\n'))) := by
  fun_induction skipLine? s with
  | case1 s hstop =>
    have hnil : s.ahead.takeWhile (· ≠ '\n') = [] := by
      rw [atEnd_iff, peek?_eq] at hstop
      rcases hstop with hend | hnext
      · rw [hend]
        rfl
      · obtain ⟨rest, hrest⟩ := List.head?_eq_some_iff.mp (List.head?_eq_getElem?.trans hnext)
        rw [hrest]
        rfl
    rw [hnil, past_nil]
  | case2 s hgo hnone => exact absurd (Or.inl (read?_eq_none_iff.mp hnone)) hgo
  | case3 s hgo c s' hread _ ih =>
    rw [not_or, peek?_eq] at hgo
    obtain ⟨rfl, hahead⟩ := of_read? hread
    have hc : c ≠ '\n' := by
      rintro rfl
      exact hgo.2 (by rw [hahead]; rfl)
    rw [ih, past_past, hahead, List.takeWhile_cons_of_pos (by simp [hc])]
    rfl

theorem prefix_ahead_iff {d : Char} :
    [c, d] <+: s.ahead ↔ s.peek? 0 = some c ∧ s.peek? 1 = some d := by
  rw [peek?_eq, peek?_eq]
  rcases s.ahead with _ | ⟨a, _ | ⟨b, rest⟩⟩
  · simp
  · simp [List.cons_prefix_cons]
  · simp [List.cons_prefix_cons, eq_comm]

/-- **A comment is skipped up to its end**, and reported if it has none. -/
theorem skipBlock?_eq (s : Scanner) (line : Int) : s.skipBlock? line = some
    (match blockEnd? s.ahead with
      | some n => s.past (s.ahead.take n)
      | none => (s.past s.ahead).reporting line [.unclosedComment]) := by
  fun_induction skipBlock? s line with
  | case1 s hend =>
    rw [atEnd_iff.mp hend, past_nil]
    rfl
  | case2 s hgo hclose =>
    have hprefix := prefix_ahead_iff.mpr hclose
    rw [blockEnd?_of_end hprefix]
    obtain ⟨rest, hrest⟩ := hprefix
    exact (readTimes?_of_ahead hrest.symm).trans (by rw [← hrest]; rfl)
  | case3 s hgo hopen hnone => exact absurd (read?_eq_none_iff.mp hnone) hgo
  | case4 s hgo hopen c s' hread _ ih =>
    obtain ⟨rfl, hahead⟩ := of_read? hread
    rw [← prefix_ahead_iff, hahead] at hopen
    rw [ih, hahead, blockEnd?_cons hopen]
    rcases blockEnd? (s.past [c]).ahead with _ | n
    · dsimp only [Option.map_none]
      rw [past_past]
      rfl
    · dsimp only [Option.map_some]
      rw [past_past]
      rfl

/-! ### Literals -/

/-- Reads what a backslash escapes. At the end it escapes nothing. -/
def escape? (s : Scanner) : Option (List Char × Scanner) :=
  if s.atEnd then some ([], s)
  else do
    let (c, s) ← s.read?
    return ([unescape c], s)

/-- **An escape is read**, as both kinds of literals have it. -/
theorem exists_escape? (s : Scanner) : ∃ value piece rest, s.ahead = piece ++ rest ∧
    s.escape? = some (value, s.past piece) ∧
    stringBody ('\\' :: s.ahead) = (stringBody rest).after value (piece.length + 1) ∧
    charBody ('\\' :: s.ahead) = (charEnd rest).after value (piece.length + 1) := by
  unfold escape?
  rcases hahead : s.ahead with _ | ⟨c, rest⟩
  · rw [if_pos (atEnd_iff.mpr hahead)]
    exact ⟨[], [], [], rfl, by rw [past_nil], rfl, rfl⟩
  · rw [if_neg (not_atEnd hahead), read?_of_ahead hahead]
    exact ⟨[unescape c], [c], rest, rfl, rfl, stringBody.eq_4 c rest, rfl⟩

theorem length_ahead_of_escape? (h : s.escape? = some (piece, s')) :
    s'.ahead.length ≤ s.ahead.length := by
  obtain ⟨value, text, rest, hahead, hescape, -⟩ := s.exists_escape?
  rw [hescape] at h
  obtain ⟨-, rfl⟩ := Prod.mk.inj (Option.some.inj h)
  rw [ahead_past hahead, hahead, List.length_append]
  exact Nat.le_add_left _ _

/-- Reads the inside of a string literal, where `value` is its value so far. Where the text ends
before the closing mark, the literal is reported on the line where it starts. -/
def stringRest? (s : Scanner) (line : Int) (value : List Char) : Option (List Char × Scanner) :=
  if s.atEnd then some (value, s.reporting line [.unclosedString])
  else
    match h : s.read? with
    | none => none
    | some (c, s₁) =>
      have := length_ahead_of_read? h
      if c = '"' then some (value, s₁)
      else if c = '\\' then
        match h' : s₁.escape? with
        | none => none
        | some (piece, s₂) =>
          have := length_ahead_of_escape? h'
          stringRest? s₂ line (value ++ piece)
      else stringRest? s₁ line (value ++ [c])
termination_by s.ahead.length

/-- Reads a string literal. -/
def string? (s : Scanner) : Option (List Char × Scanner) := do
  let (_, s₁) ← s.read?
  s₁.stringRest? s.line []

/-- Reads one character or one escape, unless the text has ended. -/
def piece? (s : Scanner) : Option (List Char × Scanner) :=
  if s.atEnd then some ([], s)
  else do
    let (c, s) ← s.read?
    if c = '\\' then s.escape? else return ([c], s)

/-- Reads the closing mark of a character literal. If it does not come next, the literal is
reported on the line where it starts. -/
def charEnd? (s : Scanner) (line : Int) : Option Scanner :=
  if s.peek? 0 = some '\'' then s.read?.map (·.2)
  else some (s.reporting line [.unclosedCharacter])

/-- Reads a character literal. -/
def char? (s : Scanner) : Option (List Char × Scanner) := do
  let (_, s₁) ← s.read?
  let (value, s₂) ← s₁.piece?
  let s₃ ← s₂.charEnd? s.line
  return (value, s₃)

/-- The scanner behind the inside of a literal. If the literal is left open, a problem is
reported. -/
def pastBody (s : Scanner) (line : Int) (body : LiteralBody) (p : Problem) : Scanner :=
  (s.past (s.ahead.take body.length)).reporting line (if body.closed then [] else [p])

theorem pastBody_after {n : Nat} (h : s.ahead = piece ++ rest) (hn : piece.length = n)
    (line : Int) (value : List Char) (body : LiteralBody) (p : Problem) :
    s.pastBody line (body.after value n) p = (s.past piece).pastBody line body p := by
  unfold pastBody LiteralBody.after
  dsimp only
  rw [ahead_past h, past_past, h, ← hn, List.take_length_add_append]

/-- **The inside of a string literal is read.** -/
theorem stringRest?_eq (s : Scanner) (line : Int) (value : List Char) :
    s.stringRest? line value = some (value ++ (stringBody s.ahead).value,
      s.pastBody line (stringBody s.ahead) .unclosedString) := by
  fun_induction stringRest? s line value with
  | case1 s value hend =>
    rw [atEnd_iff.mp hend, stringBody, List.append_nil, pastBody, List.take_zero, past_nil]
    rfl
  | case2 s value hgo hnone => exact absurd (read?_eq_none_iff.mp hnone) hgo
  | case3 s value hgo s₁ hread =>
    obtain ⟨rfl, hahead⟩ := of_read? hread
    rw [hahead, stringBody, List.append_nil, pastBody, hahead, List.take_one, if_pos rfl,
      reporting_nil]
    rfl
  | case4 s value hgo s₁ hnone =>
    obtain ⟨_, _, _, -, hescape, -⟩ := s₁.exists_escape?
    rw [hescape] at hnone
    cases hnone
  | case5 s value hgo s₁ found s₂ hescape _ hread _ _ ih =>
    obtain ⟨rfl, hahead⟩ := of_read? hread
    -- `piece` is empty where the text ends behind the backslash
    obtain ⟨value', piece, rest, hpiece, hescape', hbody, -⟩ := (s.past ['\\']).exists_escape?
    rw [hescape'] at hescape
    obtain ⟨rfl, rfl⟩ := Prod.mk.inj (Option.some.inj hescape)
    have hrest : ((s.past ['\\']).past piece).ahead = rest := ahead_past hpiece
    rw [past_past] at hrest ih
    rw [past_past, ih, hahead, hbody, hrest]
    have hall : s.ahead = ('\\' :: piece) ++ rest := by rw [hahead, hpiece]; rfl
    rw [pastBody_after hall List.length_cons, List.append_assoc]
    rfl
  | case6 s value hgo c s₁ hread _ hquote hslash ih =>
    obtain ⟨rfl, hahead⟩ := of_read? hread
    have hall : s.ahead = [c] ++ (s.past [c]).ahead := hahead
    rw [ih, hahead, stringBody_plain hquote hslash, pastBody_after hall List.length_singleton,
      List.append_assoc]
    rfl

theorem pastBody_past (h : s.ahead = c :: rest) (line : Int) (body : LiteralBody) (p : Problem) :
    (s.past [c]).pastBody line body p =
      (s.past (c :: rest.take body.length)).reporting line (if body.closed then [] else [p]) := by
  have hrest : (s.past [c]).ahead = rest := ahead_past h
  rw [pastBody, hrest, past_past]
  rfl

theorem string?_of_ahead (h : s.ahead = '"' :: rest) :
    s.string? = some ((stringBody rest).value,
      (s.past ['"']).pastBody s.line (stringBody rest) .unclosedString) := by
  have hrest : (s.past ['"']).ahead = rest := ahead_past h
  simp [string?, read?_of_ahead h, stringRest?_eq, hrest]

theorem charEnd?_eq (s : Scanner) (line : Int) :
    s.charEnd? line = some (s.pastBody line (charEnd s.ahead) .unclosedCharacter) := by
  unfold charEnd?
  rw [peek?_eq, ← List.head?_eq_getElem?]
  by_cases hmark : s.ahead.head? = some '\''
  · obtain ⟨rest, hahead⟩ := List.head?_eq_some_iff.mp hmark
    rw [if_pos hmark, read?_of_ahead hahead, pastBody, hahead, charEnd, List.take_one, if_pos rfl,
      reporting_nil]
    rfl
  · rw [if_neg hmark, charEnd_of_head?_ne hmark, pastBody, List.take_zero, past_nil]
    rfl

theorem exists_piece? (s : Scanner) : ∃ value piece rest, s.ahead = piece ++ rest ∧
    s.piece? = some (value, s.past piece) ∧
    charBody s.ahead = (charEnd rest).after value piece.length := by
  unfold piece?
  rcases hahead : s.ahead with _ | ⟨c, rest⟩
  · rw [if_pos (atEnd_iff.mpr hahead)]
    exact ⟨[], [], [], rfl, by rw [past_nil], rfl⟩
  · rw [if_neg (not_atEnd hahead), read?_of_ahead hahead]
    have hrest : (s.past [c]).ahead = rest := ahead_past hahead
    by_cases hc : c = '\\'
    · subst hc
      obtain ⟨value, piece, rest', hpiece, hescape, -, hbody⟩ := (s.past ['\\']).exists_escape?
      rw [hrest] at hpiece hbody
      rw [past_past] at hescape
      exact ⟨value, '\\' :: piece, rest', by rw [hpiece]; rfl, hescape, hbody⟩
    · exact ⟨[c], [c], rest, rfl, by simp [hc], charBody_append (.plain hc) rest⟩

theorem char?_of_ahead (h : s.ahead = '\'' :: rest) :
    s.char? = some ((charBody rest).value,
      (s.past ['\'']).pastBody s.line (charBody rest) .unclosedCharacter) := by
  have hrest : (s.past ['\'']).ahead = rest := ahead_past h
  obtain ⟨value, piece, rest', hpiece, hread, hbody⟩ := (s.past ['\'']).exists_piece?
  have hrest' : ((s.past ['\'']).past piece).ahead = rest' := ahead_past hpiece
  have hvalue : (charEnd rest').value = [] := by unfold charEnd; split <;> rfl
  rw [← hrest, hbody, pastBody_after hpiece rfl, LiteralBody.after, hvalue, List.append_nil]
  simp [char?, read?_of_ahead h, hread, charEnd?_eq, hrest']

end Scanner

end BlockLang
