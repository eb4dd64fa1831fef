import BlockLang.Proofs.Lexing.Scanner
import BlockLang.Proofs.Lexing.Writing
import BlockLang.Text.Letter

/-! # The scan of a text by positions

One call of a scanner applies the first rule for the character at its position; a run makes calls up
to the end of the text. The automata are asked only at certain characters: the one of words at
letters of all scripts, the one of numbers at digits of all scripts, the one of operators at
`Scanner.operatorMarks`. Where they match nothing, the character is reported.

* `Scanner.scan?`: one call. It never fails before the end of the text, and takes the segment there
  (`Scanner.scan?_of_ahead`).
* `Scanner.run?`: a run. It takes all segments of the text ahead (`Scanner.run?_eq`). -/

namespace BlockLang

namespace Scanner

variable {s s' : Scanner} {c : Char} {text rest : List Char}

/-! ### The rules -/

/-- The kind of a punctuation mark. -/
def punctuation? (c : Char) : Option TokenKind :=
  if c = '{' then some .openBrace
  else if c = '}' then some .closeBrace
  else if c = ';' then some .semicolon
  else none

/-- The characters at which an operator is looked for. None starts with the last one. -/
def operatorMarks : List Char := ['=', '<', '>', '!', '+', '-', '*', '/', '%', '^']

/-- The length of what an automaton matches at the position, if it is asked. -/
def matchLength (s : Scanner) (asked : Bool) (a : Automaton) : Nat :=
  if asked then a.longestMatchAt s.source s.position else 0

/-- Asks the automata one after the other, and takes the first match. Where none matches, the
character is reported and passed over. -/
def scanMatch? (s : Scanner) (limit : Int) (c : Char) : Option (Option Token × Scanner) :=
  match s.matchLength (Text.isLetter c) .identifier with
  | n + 1 =>
    (s.take? (n + 1)).map fun (text, s') =>
      (some ⟨wordKind (String.ofList text), String.ofList text, s.line⟩, s')
  | 0 =>
    match s.matchLength (Text.isDigit c) .number with
    | n + 1 =>
      (s.take? (n + 1)).map fun (text, s') =>
        (some ⟨.number, String.ofList text, s.line⟩,
          s'.reporting s.line (numberProblems limit (String.ofList text)))
    | 0 =>
      match s.matchLength (operatorMarks.contains c) .operator with
      | n + 1 =>
        (s.take? (n + 1)).map fun (text, s') =>
          (some ⟨.operator, String.ofList text, s.line⟩, s')
      | 0 => (s.reporting s.line [.invalidCharacter c]).read?.map fun (_, s') => (none, s')

/-- Applies the first rule for a character at the position. -/
def scanAt? (s : Scanner) (limit : Int) (c : Char) : Option (Option Token × Scanner) :=
  if Text.isBlank c then s.read?.map fun (_, s') => (none, s')
  else
    match punctuation? c with
    | some kind => s.read?.map fun (_, s') => (some ⟨kind, String.ofList [c], s.line⟩, s')
    | none =>
      if c = '/' ∧ (s.peek? 1 = some '/' ∨ s.peek? 1 = some '*') then
        s.comment?.map fun s' => (none, s')
      else if c = '"' then
        s.string?.map fun (value, s') => (some ⟨.string, String.ofList value, s.line⟩, s')
      else if c = '\'' then
        s.char?.map fun (value, s') => (some ⟨.char, String.ofList value, s.line⟩, s')
      else s.scanMatch? limit c

/-- Scans what is at the position: a token, or something that is passed over. -/
def scan? (s : Scanner) (limit : Int) : Option (Option Token × Scanner) := do
  let c ← s.peek? 0
  s.scanAt? limit c

/-- The scanner behind a segment, and the token that the segment is. -/
def behind (s : Scanner) (limit : Int) (seg : Segment) : Option Token × Scanner :=
  (seg.token? s.line, (s.past seg.text).reporting s.line (seg.problems limit))

theorem behind_of_problems_nil (s : Scanner) (limit : Int) (seg : Segment)
    (h : seg.problems limit = []) :
    s.behind limit seg = (seg.token? s.line, s.past seg.text) := by
  rw [behind, h, reporting_nil]

/-- **An automaton is asked wherever it matches.** -/
theorem matchLength_eq {a : Automaton} {asked : Bool} (h : s.ahead = text)
    (hasked : a.longestMatch text ≠ 0 → asked = true) :
    s.matchLength asked a = a.longestMatch text := by
  unfold matchLength Automaton.longestMatchAt
  rw [Int.toNat_natCast, ← ahead, h]
  by_cases hzero : a.longestMatch text = 0
  · rw [hzero, ite_self]
  · rw [if_pos (hasked hzero)]

theorem take?_of_longestMatch {a : Automaton} {n : Nat} (h : s.ahead = c :: rest)
    (hn : a.longestMatch (c :: rest) = n + 1) :
    s.take? (n + 1) = some (c :: rest.take n, s.past (c :: rest.take n)) := by
  have hle := Automaton.longestMatch_le_length a (c :: rest)
  rw [hn, List.length_cons] at hle
  have hlength : (c :: rest.take n).length = n + 1 := by
    rw [List.length_cons, List.length_take_of_le (Nat.le_of_succ_le_succ hle)]
  have htext : s.ahead = (c :: rest.take n) ++ rest.drop n := by
    rw [h, List.cons_append, List.take_append_drop]
  rw [← hlength]
  exact take?_of_ahead htext

theorem scanMatch?_of_ahead (h : s.ahead = c :: rest) (limit : Int) :
    s.scanMatch? limit c = some (s.behind limit
      ⟨(classifyMatch c rest).1, c :: rest.take (classifyMatch c rest).2⟩) := by
  -- not asking an automaton is no loss: where it matches, the first character is one it is asked at
  have hword : s.matchLength (Text.isLetter c) .identifier =
      Automaton.identifier.longestMatch (c :: rest) := by
    refine matchLength_eq h fun hne => ?_
    have hlower := ScanRule.starts_of_applies (ScanRule.applies_word.mpr hne)
    obtain ⟨hfirst, hlast⟩ := Automaton.isLower_iff.mp hlower
    exact Text.isLetter_of_lower hfirst hlast
  have hnumber : s.matchLength (Text.isDigit c) .number =
      Automaton.number.longestMatch (c :: rest) := by
    refine matchLength_eq h fun hne => ?_
    have hdigit := ScanRule.starts_of_applies (ScanRule.applies_number.mpr hne)
    exact Text.isDigit_of_isDecimalDigit (isDecimalDigit_of_isDigit hdigit)
  have hoperator : s.matchLength (operatorMarks.contains c) .operator =
      Automaton.operator.longestMatch (c :: rest) := by
    refine matchLength_eq h fun hne => ?_
    have hmark := ScanRule.starts_of_applies (ScanRule.applies_operator.mpr hne)
    have hmarks : Automaton.operatorChars ⊆ operatorMarks := by decide
    exact List.contains_iff_mem.mpr (hmarks hmark)
  unfold scanMatch? classifyMatch
  rw [hword, hnumber, hoperator]
  rcases hw : Automaton.identifier.longestMatch (c :: rest) with _ | n
  · rcases hn : Automaton.number.longestMatch (c :: rest) with _ | n
    · rcases ho : Automaton.operator.longestMatch (c :: rest) with _ | n
      · have hread : (s.reporting s.line [.invalidCharacter c]).read? =
            some (c, (s.reporting s.line [.invalidCharacter c]).past [c]) := read?_of_ahead h
        dsimp only
        rw [hread]
        rfl
      · dsimp only
        rw [take?_of_longestMatch h ho]
        exact congrArg some (behind_of_problems_nil s limit ⟨.operator, _⟩ rfl).symm
    · dsimp only
      rw [take?_of_longestMatch h hn]
      rfl
  · dsimp only
    rw [take?_of_longestMatch h hw]
    exact congrArg some (behind_of_problems_nil s limit ⟨.word, _⟩ rfl).symm

/-- The segment at the head of a text. -/
def headSegment (c : Char) (rest : List Char) : Segment :=
  ⟨(classify c rest).1, c :: rest.take (classify c rest).2⟩

theorem headSegment_append (c : Char) (rest : List Char) :
    (headSegment c rest).text ++ rest.drop (classify c rest).2 = c :: rest := by
  rw [headSegment, List.cons_append, List.take_append_drop]

theorem sees_comment_iff (h : s.ahead = c :: rest) :
    (c = '/' ∧ (s.peek? 1 = some '/' ∨ s.peek? 1 = some '*')) ↔
      ScanRule.comment.Applies (c :: rest) := by
  have hsees : ∀ d, ['/', d] <+: c :: rest ↔ c = '/' ∧ s.peek? 1 = some d := by
    intro d
    rw [← h, prefix_ahead_iff, peek?_eq s 0, h, List.getElem?_cons_zero, Option.some_inj]
  show _ ↔ ['/', '/'] <+: c :: rest ∨ ['/', '*'] <+: c :: rest
  rw [hsees, hsees, and_or_left]

theorem comment?_of_cons {d : Char} (h : s.ahead = c :: d :: rest) :
    s.comment? =
      if d = '/' then (s.past [c, d]).skipLine? else (s.past [c, d]).skipBlock? s.line := by
  have hrest : (s.past [c]).ahead = d :: rest := ahead_past h
  simp [comment?, read?_of_ahead h, read?_of_ahead hrest, past_past]

theorem comment?_of_ahead {shape : Shape} {n : Nat} (h : s.ahead = '/' :: rest)
    (hcomment : classifyComment? rest = some (shape, n)) (limit : Int) :
    s.comment?.map (fun s' => (none, s')) =
      some (s.behind limit ⟨shape, '/' :: rest.take n⟩) := by
  have happlies : ScanRule.comment.Applies ('/' :: rest) :=
    ScanRule.applies_comment.mpr ⟨rfl, by rw [hcomment]; exact Option.some_ne_none _⟩
  rcases happlies with hline | hblock
  · obtain ⟨cs, hcs⟩ := hline
    obtain rfl : '/' :: cs = rest := (List.cons.inj hcs).2
    obtain ⟨rfl, rfl⟩ := Prod.mk.inj (Option.some.inj hcomment)
    have hbody : cs.takeWhile (· ≠ '\n') = cs.take (cs.takeWhile (· ≠ '\n')).length :=
      List.prefix_iff_eq_take.mp (List.takeWhile_prefix _)
    have hbehind : (s.past ['/', '/']).ahead = cs := ahead_past h
    rw [comment?_of_cons h, if_pos rfl, skipLine?_eq, hbehind, past_past, Nat.add_comm 1,
      List.take_succ_cons, ← hbody]
    exact congrArg some (behind_of_problems_nil s limit ⟨.lineComment, _⟩ rfl).symm
  · obtain ⟨cs, hcs⟩ := hblock
    obtain rfl : '*' :: cs = rest := (List.cons.inj hcs).2
    have hbehind : (s.past ['/', '*']).ahead = cs := ahead_past h
    rw [comment?_of_cons h, if_neg (by decide), skipBlock?_eq, hbehind]
    rw [classifyComment?] at hcomment
    rcases hend : blockEnd? cs with _ | m
    · rw [hend] at hcomment
      obtain ⟨rfl, rfl⟩ := Prod.mk.inj (Option.some.inj hcomment)
      rw [Nat.add_comm 1, List.take_succ_cons, List.take_length]
      dsimp only
      rw [past_past]
      rfl
    · rw [hend] at hcomment
      obtain ⟨rfl, rfl⟩ := Prod.mk.inj (Option.some.inj hcomment)
      rw [Nat.add_comm 1, List.take_succ_cons]
      dsimp only
      rw [past_past]
      exact congrArg some (behind_of_problems_nil s limit ⟨.blockComment true, _⟩ rfl).symm

theorem problems_string (limit : Int) (value text : List Char) (closed : Bool) :
    Segment.problems limit ⟨.string value closed, text⟩ =
      if closed then [] else [.unclosedString] := by cases closed <;> rfl

theorem problems_char (limit : Int) (value text : List Char) (closed : Bool) :
    Segment.problems limit ⟨.char value closed, text⟩ =
      if closed then [] else [.unclosedCharacter] := by cases closed <;> rfl

theorem classify_of_match (hblank : ¬Text.isBlank c = true) (hmark : punctuation? c = none)
    (hcomment : ¬ScanRule.comment.Applies (c :: rest)) (hquote : c ≠ '"')
    (hapostrophe : c ≠ '\'') : classify c rest = classifyMatch c rest := by
  unfold punctuation? at hmark
  split_ifs at hmark with hopen hclose hsemicolon
  rw [classify, if_neg hblank, if_neg hopen, if_neg hclose, if_neg hsemicolon, if_neg hquote,
    if_neg hapostrophe]
  by_cases hslash : c = '/'
  · have hnone : classifyComment? rest = none := by
      by_contra hsome
      exact hcomment (ScanRule.applies_comment.mpr ⟨hslash, hsome⟩)
    rw [if_pos hslash, hnone]
    rfl
  · rw [if_neg hslash]

theorem exists_classify_of_mark {kind : TokenKind} (hmark : punctuation? c = some kind)
    (rest : List Char) : ∃ shape, classify c rest = (shape, 0) ∧
      Segment.content? ⟨shape, [c]⟩ = some (kind, String.ofList [c]) ∧
      ∀ limit, Segment.problems limit ⟨shape, [c]⟩ = [] := by
  unfold punctuation? at hmark
  split_ifs at hmark with hopen hclose hsemicolon
  · subst hopen
    obtain rfl := Option.some.inj hmark
    exact ⟨.openBrace, rfl, rfl, fun _ => rfl⟩
  · subst hclose
    obtain rfl := Option.some.inj hmark
    exact ⟨.closeBrace, rfl, rfl, fun _ => rfl⟩
  · subst hsemicolon
    obtain rfl := Option.some.inj hmark
    exact ⟨.semicolon, rfl, rfl, fun _ => rfl⟩

/-- **One call of the scan** takes the segment at the position. -/
theorem scan?_of_ahead (h : s.ahead = c :: rest) (limit : Int) :
    s.scan? limit = some (s.behind limit (headSegment c rest)) := by
  have hpeek : s.peek? 0 = some c := by rw [peek?_eq, h]; rfl
  have hscan : s.scan? limit = s.scanAt? limit c := by simp [scan?, hpeek]
  rw [hscan, scanAt?, headSegment]
  by_cases hblank : Text.isBlank c = true
  · rw [if_pos hblank, classify_blank hblank, read?_of_ahead h]
    exact congrArg some (behind_of_problems_nil s limit ⟨.blank, _⟩ rfl).symm
  rw [if_neg hblank]
  rcases hmark : punctuation? c with _ | kind
  · dsimp only
    have hsees := sees_comment_iff h
    by_cases hcomment : ScanRule.comment.Applies (c :: rest)
    · obtain ⟨rfl, hsome⟩ := ScanRule.applies_comment.mp hcomment
      obtain ⟨⟨shape, n⟩, hshape⟩ := Option.ne_none_iff_exists'.mp hsome
      rw [if_pos (hsees.mpr hcomment), comment?_of_ahead h hshape limit, classify_slash, hshape]
      rfl
    rw [if_neg (mt hsees.mp hcomment)]
    by_cases hquote : c = '"'
    · subst hquote
      rw [if_pos rfl, string?_of_ahead h, classify_quote, pastBody_past h, behind, problems_string]
      rfl
    by_cases hapostrophe : c = '\''
    · subst hapostrophe
      rw [if_neg hquote, if_pos rfl, char?_of_ahead h, classify_apostrophe, pastBody_past h, behind,
        problems_char]
      rfl
    rw [if_neg hquote, if_neg hapostrophe, scanMatch?_of_ahead h limit,
      classify_of_match hblank hmark hcomment hquote hapostrophe]
  · obtain ⟨shape, hshape, hcontent, hproblems⟩ := exists_classify_of_mark hmark rest
    rw [read?_of_ahead h, hshape, behind, List.take_zero, Segment.token?, hcontent, hproblems,
      reporting_nil]
    rfl

/-! ### Whole scans -/

theorem ahead_behind (h : s.ahead = c :: rest) (limit : Int) :
    (s.behind limit (headSegment c rest)).2.ahead = rest.drop (classify c rest).2 := by
  have htext : s.ahead = (headSegment c rest).text ++ rest.drop (classify c rest).2 := by
    rw [h, headSegment_append]
  exact ahead_past htext

theorem exists_scan? (hgo : ¬s.atEnd = true) (limit : Int) : ∃ c rest, s.ahead = c :: rest ∧
    s.scan? limit = some (s.behind limit (headSegment c rest)) := by
  obtain ⟨c, rest, hahead, -⟩ := exists_read? hgo
  exact ⟨c, rest, hahead, scan?_of_ahead hahead limit⟩

theorem length_ahead_of_scan? {limit : Int} {t : Option Token} (hgo : ¬s.atEnd = true)
    (h : s.scan? limit = some (t, s')) : s'.ahead.length < s.ahead.length := by
  obtain ⟨c, rest, hahead, hscan⟩ := exists_scan? hgo limit
  have hs' : (s.behind limit (headSegment c rest)).2 = s' :=
    congrArg Prod.snd (Option.some.inj (hscan.symm.trans h))
  rw [← hs', ahead_behind hahead, hahead, List.length_drop, List.length_cons]
  omega

/-- Scans up to the end of the text, behind some tokens. -/
def run? (s : Scanner) (limit : Int) (tokens : List Token) : Option (List Token × Scanner) :=
  if hend : s.atEnd then some (tokens ++ [⟨.endOfInput, "", s.line⟩], s)
  else
    match h : s.scan? limit with
    | none => none
    | some (t, s') =>
      have := length_ahead_of_scan? hend h
      run? s' limit (tokens ++ t.toList)
termination_by s.ahead.length

/-- **A scan takes all segments of the text ahead.** -/
theorem run?_eq (s : Scanner) (limit : Int) (tokens : List Token) : s.run? limit tokens = some
    (tokens ++ tokensFrom s.line (segments s.ahead),
      { s.past s.ahead with
        findings := s.findings ++ findingsFrom limit s.line (segments s.ahead) }) := by
  fun_induction run? s limit tokens with
  | case1 s tokens hend =>
    rw [atEnd_iff.mp hend, segments, tokensFrom, findingsFrom, past_nil, List.append_nil]
  | case2 s tokens hgo hnone =>
    obtain ⟨c, rest, -, hscan⟩ := exists_scan? hgo limit
    rw [hscan] at hnone
    cases hnone
  | case3 s tokens hgo t s' hscan _ ih =>
    obtain ⟨c, rest, hahead, hscan'⟩ := exists_scan? hgo limit
    have hpair := Option.some.inj (hscan'.symm.trans hscan)
    obtain rfl : t = (headSegment c rest).token? s.line := (congrArg Prod.fst hpair).symm
    obtain rfl : s' = (s.behind limit (headSegment c rest)).2 := (congrArg Prod.snd hpair).symm
    have hpast : (s.past (headSegment c rest).text).past (rest.drop (classify c rest).2) =
        s.past (c :: rest) := by rw [past_past, headSegment_append]
    rw [ih, ahead_behind hahead, hahead, segments_cons, tokensFrom, findingsFrom, ← hpast,
      List.append_assoc, ← List.append_assoc s.findings]
    rfl

end Scanner

end BlockLang
