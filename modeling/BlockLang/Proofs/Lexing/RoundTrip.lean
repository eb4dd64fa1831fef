import BlockLang.Proofs.Lexing.Writing

/-! # Lexing undoes writing

Some well-formed tokens are written with one blank between them. Cut into segments, the text is the
segments of the tokens with blanks between (`segments_writing_cons`), so the tokens come back, each
on the line on which it was written, and only long fractions are reported.

The tokens of any program are well-formed unless one is an empty character literal
(`exists_wellFormed_tokens`), so writing and lexing them again changes nothing but lines. -/

namespace BlockLang

/-- The text of some tokens, with one blank between them. -/
def writing (tokens : List Token) : List Char := [' '].intercalate (tokens.map Token.written)

/-- A program text of some tokens. -/
def written (tokens : List Token) : String := String.ofList (writing tokens)

/-- Some tokens on the lines on which they come to stand, and the end of input. A token is as many
lines below the one before it as that one has line breaks in its lexeme. -/
def relined (line : Int) : List Token → List Token
  | [] => [⟨.endOfInput, "", line⟩]
  | t :: rest => ⟨t.kind, t.lexeme, line⟩ :: relined (line + t.lexeme.toList.count '\n') rest

namespace Token

/-- The kind and the lexeme of a token. -/
def content (t : Token) : TokenKind × String := (t.kind, t.lexeme)

/-- A number whose fraction has more digits than the limit. -/
def HasLongFraction (limit : Int) (t : Token) : Prop :=
  t.kind = .number ∧
    ∃ digits, HasFraction t.lexeme.toList digits ∧ digits ≠ [] ∧ limit < digits.length

/-- A character literal without a character. -/
def IsEmptyChar (t : Token) : Prop := t.kind = .char ∧ t.lexeme = ""

end Token

open Classical in
/-- The findings on the long fractions of some tokens. -/
noncomputable def longFractions (limit : Int) (tokens : List Token) : List Finding :=
  (tokens.filter (Token.HasLongFraction limit)).map fun t =>
    ⟨t.line, .fractionTooLong limit t.lexeme⟩

/-! ### The segments of a written text -/

theorem writing_cons_cons (t u : Token) (tokens : List Token) :
    writing (t :: u :: tokens) = t.written ++ ([' '] ++ writing (u :: tokens)) := by
  rw [writing, List.map_cons, List.map_cons, List.intercalate_cons_cons, List.append_assoc]
  rfl

theorem segments_writing_singleton {t : Token} (h : t.WellFormed) :
    segments (writing [t]) = [t.segment] := by
  have hr : Separated [] := fun c hc => by cases hc
  have hs := segments_append (h.heads hr)
  rw [List.append_nil, segments] at hs
  rw [writing, List.map_cons, List.map_nil, List.intercalate_singleton]
  exact hs

theorem segments_writing_cons {t : Token} (h : t.WellFormed) (u : Token) (tokens : List Token) :
    segments (writing (t :: u :: tokens)) =
      t.segment :: ⟨.blank, [' ']⟩ :: segments (writing (u :: tokens)) := by
  have hr : Separated ([' '] ++ writing (u :: tokens)) := by
    intro c hc; cases hc; rfl
  rw [writing_cons_cons, ← segments_append (heads_blank (by decide) (writing (u :: tokens)))]
  exact segments_append (h.heads hr)

/-! ### The tokens of a written text -/

theorem Token.WellFormed.denotes {t : Token} (h : t.WellFormed) :
    t.segment.Denotes t.kind t.lexeme.toList := by
  obtain ⟨kind, lexeme, line⟩ := t
  cases kind with
  | keyword => exact .keyword (by rw [Token.written, String.ofList_toList]; exact h)
  | identifier => exact .identifier (by rw [Token.written, String.ofList_toList]; exact h.2)
  | endOfInput => exact h.elim
  | _ => constructor

theorem tokensFrom_cons_segment {t : Token} (h : t.WellFormed) (line : Int)
    (segs : List Segment) :
    tokensFrom line (t.segment :: segs) =
      ⟨t.kind, t.lexeme, line⟩ :: tokensFrom (line + t.lexeme.toList.count '\n') segs := by
  rw [tokensFrom_cons_of_denotes h.denotes, String.ofList_toList]
  show _ :: tokensFrom (line + lineBreaks t.written) segs = _
  rw [t.lineBreaks_written]
  rfl

theorem tokensFrom_segments_writing : ∀ {tokens : List Token}, (∀ t ∈ tokens, t.WellFormed) →
    ∀ line, tokensFrom line (segments (writing tokens)) = relined line tokens
  | [], _, line => by rw [writing, List.map_nil, List.intercalate_nil, segments]; rfl
  | [t], h, line => by
    rw [segments_writing_singleton (h t List.mem_cons_self),
      tokensFrom_cons_segment (h t List.mem_cons_self)]
    rfl
  | t :: u :: tokens, h, line => by
    have hrest : ∀ t' ∈ u :: tokens, t'.WellFormed :=
      fun t' ht' => h t' (List.mem_cons_of_mem t ht')
    have ih := tokensFrom_segments_writing hrest
    rw [segments_writing_cons (h t List.mem_cons_self),
      tokensFrom_cons_segment (h t List.mem_cons_self), tokensFrom_cons_of_skipped (Or.inl rfl), ih,
      relined.eq_2 line t]
    simp [lineBreaks]

/-! ### The findings on a written text -/

theorem Token.hasLongFraction_iff {text digits : List Char} (h : HasFraction text digits)
    (limit line : Int) :
    Token.HasLongFraction limit ⟨.number, String.ofList text, line⟩ ↔
      digits ≠ [] ∧ limit < digits.length := by
  constructor
  · rintro ⟨-, digits', hd, hlong⟩
    rw [String.toList_ofList] at hd
    rw [h.unique hd]
    exact hlong
  · intro hlong
    exact ⟨rfl, digits, by rw [String.toList_ofList]; exact h, hlong⟩

open Classical in
theorem problems_segment {t : Token} (h : t.WellFormed) (limit : Int) :
    t.segment.problems limit =
      if t.HasLongFraction limit then [.fractionTooLong limit t.lexeme] else [] := by
  obtain ⟨kind, lexeme, line⟩ := t
  have hother : kind ≠ .number → ¬ Token.HasLongFraction limit ⟨kind, lexeme, line⟩ :=
    fun hk hl => hk hl.1
  cases kind with
  | number =>
    obtain ⟨digits, hd⟩ := h
    have hl := Token.hasLongFraction_iff hd limit line
    rw [String.ofList_toList] at hl
    show numberProblems limit (String.ofList lexeme.toList) = _
    rw [numberProblems_of_hasFraction limit hd, String.ofList_toList]
    simp only [hl]
  | endOfInput => exact h.elim
  | _ => rw [if_neg (hother (by decide))]; rfl

section LongFractions

variable {limit : Int} {t : Token}

theorem longFractions_nil : longFractions limit [] = [] := rfl

theorem longFractions_append (limit : Int) (tokens tokens' : List Token) :
    longFractions limit (tokens ++ tokens') =
      longFractions limit tokens ++ longFractions limit tokens' := by
  rw [longFractions, List.filter_append, List.map_append]; rfl

theorem longFractions_of_hasLongFraction (h : t.HasLongFraction limit) :
    longFractions limit [t] = [⟨t.line, .fractionTooLong limit t.lexeme⟩] := by
  simp [longFractions, h]

theorem longFractions_of_not_hasLongFraction (h : ¬ t.HasLongFraction limit) :
    longFractions limit [t] = [] := by
  simp [longFractions, h]

end LongFractions

theorem longFractions_cons (limit : Int) (t : Token) (tokens : List Token) :
    longFractions limit (t :: tokens) = longFractions limit [t] ++ longFractions limit tokens :=
  longFractions_append limit [t] tokens

theorem longFractions_endOfInput (limit line : Int) :
    longFractions limit [⟨.endOfInput, "", line⟩] = [] :=
  longFractions_of_not_hasLongFraction fun h => by cases h.1

theorem findingsFrom_cons_segment {t : Token} (h : t.WellFormed) (limit line : Int)
    (segs : List Segment) :
    findingsFrom limit line (t.segment :: segs) =
      longFractions limit [⟨t.kind, t.lexeme, line⟩] ++
        findingsFrom limit (line + t.lexeme.toList.count '\n') segs := by
  have hp : (t.segment.problems limit).map (Finding.mk line) =
      longFractions limit [⟨t.kind, t.lexeme, line⟩] := by
    rw [problems_segment h]
    by_cases hl : t.HasLongFraction limit
    · have hl' : Token.HasLongFraction limit ⟨t.kind, t.lexeme, line⟩ := hl
      rw [if_pos hl, longFractions_of_hasLongFraction hl', List.map_singleton]
    · have hl' : ¬ Token.HasLongFraction limit ⟨t.kind, t.lexeme, line⟩ := hl
      rw [if_neg hl, longFractions_of_not_hasLongFraction hl', List.map_nil]
  rw [findingsFrom, hp]
  show _ ++ findingsFrom limit (line + lineBreaks t.written) segs = _
  rw [t.lineBreaks_written]
  rfl

theorem findingsFrom_segments_writing (limit : Int) :
    ∀ {tokens : List Token}, (∀ t ∈ tokens, t.WellFormed) → ∀ line,
      findingsFrom limit line (segments (writing tokens)) =
        longFractions limit (relined line tokens)
  | [], _, line => by
    rw [writing, List.map_nil, List.intercalate_nil, segments]
    exact (longFractions_endOfInput limit line).symm
  | [t], h, line => by
    rw [segments_writing_singleton (h t List.mem_cons_self),
      findingsFrom_cons_segment (h t List.mem_cons_self), relined.eq_2 line t, relined,
      longFractions_cons limit _ [_], longFractions_endOfInput]
    rfl
  | t :: u :: tokens, h, line => by
    have hrest : ∀ t' ∈ u :: tokens, t'.WellFormed :=
      fun t' ht' => h t' (List.mem_cons_of_mem t ht')
    have ih := findingsFrom_segments_writing limit hrest
    rw [segments_writing_cons (h t List.mem_cons_self),
      findingsFrom_cons_segment (h t List.mem_cons_self), findingsFrom, ih, relined.eq_2 line t,
      longFractions_cons limit _ (relined _ _)]
    simp [lineBreaks, Segment.problems]

/-! ### Lexing again -/

theorem map_content_relined : ∀ (tokens : List Token) (line : Int),
    (relined line tokens).map Token.content = tokens.map Token.content ++ [(.endOfInput, "")]
  | [], _ => rfl
  | t :: tokens, line => by
    rw [relined, List.map_cons, map_content_relined tokens]; rfl

theorem wellFormed_of_denotes {s : Segment} {rest lexeme : List Char} {kind : TokenKind}
    (hs : s.Heads rest) (hd : s.Denotes kind lexeme) (hc : kind = .char → lexeme ≠ [])
    (line : Int) : Token.WellFormed ⟨kind, String.ofList lexeme, line⟩ := by
  obtain ⟨r, -, ht⟩ := hs
  cases hd with
  | openBrace => cases ht; exact String.toList_ofList
  | closeBrace => cases ht; exact String.toList_ofList
  | semicolon => cases ht; exact String.toList_ofList
  | string => trivial
  | char =>
    cases ht with
    | char => exact ⟨_, String.toList_ofList⟩
    | openChar => exact ⟨_, String.toList_ofList⟩
    | emptyChar => exact absurd rfl (hc rfl)
    | emptyEscape => exact absurd rfl (hc rfl)
  | keyword hk => exact hk
  | identifier hk =>
    cases ht with
    | word hl => exact ⟨by rw [String.toList_ofList]; exact hl.mem, hk⟩
  | number =>
    cases ht with
    | number hl =>
      show IsNumeral (String.ofList lexeme).toList
      rw [String.toList_ofList]; exact hl.mem
  | operator =>
    cases ht with
    | operator hl =>
      show IsOperator (String.ofList lexeme).toList
      rw [String.toList_ofList]; exact hl.mem

/-- **The tokens of a program are well-formed or empty character literals**, up to the end of
input. -/
theorem exists_tokens_eq (source : String) :
    ∃ tokens line, tokenize source = tokens ++ [⟨.endOfInput, "", line⟩] ∧
      ∀ t ∈ tokens, t.WellFormed ∨ t.IsEmptyChar := by
  obtain ⟨tokens, line, he, ht⟩ := exists_tokensFrom_eq (segments source.toList) 1
  refine ⟨tokens, line, he, fun t hm => ?_⟩
  obtain ⟨s, hs, hd⟩ := ht t hm
  obtain ⟨rest, hh⟩ := (segmentation_segments source.toList).exists_heads hs
  refine or_iff_not_imp_right.mpr fun hne => ?_
  have hw := wellFormed_of_denotes hh hd
    (fun hk hl => hne ⟨hk, String.toList_eq_nil_iff.mp hl⟩) t.line
  rw [String.ofList_toList] at hw
  exact hw

/-- **The tokens of a program are well-formed**, up to the end of input and without empty character
literals. -/
theorem exists_wellFormed_tokens {source : String}
    (hc : ∀ t ∈ tokenize source, t.kind = .char → t.lexeme ≠ "") :
    ∃ tokens line, tokenize source = tokens ++ [⟨.endOfInput, "", line⟩] ∧
      ∀ t ∈ tokens, t.WellFormed := by
  obtain ⟨tokens, line, he, ht⟩ := exists_tokens_eq source
  refine ⟨tokens, line, he, fun t hm => (ht t hm).resolve_right fun hempty => ?_⟩
  refine hc t ?_ hempty.1 hempty.2
  rw [he]
  exact List.mem_append_left _ hm

theorem tokenize_written {tokens : List Token} (h : ∀ t ∈ tokens, t.WellFormed) :
    tokenize (written tokens) = relined 1 tokens := by
  rw [tokenize, written, String.toList_ofList, tokensFrom_segments_writing h]

/-- **Lexing undoes writing.** Well-formed tokens, written with one blank between them, come back
with their kinds and lexemes, on the lines on which they were written, and nothing is reported but
the fractions that are too long. So the tokens of a program without empty character literals can be
written and lexed again, and keep their kinds and lexemes. -/
theorem lexing_undoes_writing :
    (∀ (tokens : List Token) (limit : Int), (∀ t ∈ tokens, t.WellFormed) →
      tokenize (written tokens) = relined 1 tokens ∧
        lexicalFindings limit (written tokens) = longFractions limit (relined 1 tokens)) ∧
    ∀ source : String, (∀ t ∈ tokenize source, t.kind = .char → t.lexeme ≠ "") →
      (tokenize (written (tokenize source).dropLast)).map Token.content =
        (tokenize source).map Token.content := by
  refine ⟨fun tokens limit h => ⟨tokenize_written h, ?_⟩, fun source hc => ?_⟩
  · rw [lexicalFindings, written, String.toList_ofList, findingsFrom_segments_writing limit h]
  · obtain ⟨tokens, line, he, hw⟩ := exists_wellFormed_tokens hc
    rw [he, List.dropLast_concat, tokenize_written hw, map_content_relined, List.map_append]
    rfl

/-- Marks, escapes and line feeds in literals, the signs of comments as operators, and a fraction of
two digits where one is allowed, all written in one text; and a program with an open literal. -/
theorem lexing_undoes_writing_of_marks :
    (∃ text, text = written [⟨.string, "\"\\n\n", 9⟩, ⟨.char, "'", 9⟩, ⟨.char, "\\", 9⟩,
        ⟨.operator, "/", 9⟩, ⟨.operator, "*", 9⟩, ⟨.keyword, "int", 9⟩, ⟨.number, "1.25E-3", 9⟩] ∧
      tokenize text = [⟨.string, "\"\\n\n", 1⟩, ⟨.char, "'", 2⟩, ⟨.char, "\\", 2⟩,
        ⟨.operator, "/", 2⟩, ⟨.operator, "*", 2⟩, ⟨.keyword, "int", 2⟩, ⟨.number, "1.25E-3", 2⟩,
        ⟨.endOfInput, "", 2⟩] ∧
      lexicalFindings 1 text = [⟨2, .fractionTooLong 1 "1.25E-3"⟩]) ∧
    (tokenize (written (tokenize "x='a").dropLast)).map Token.content =
      [(.identifier, "x"), (.operator, "="), (.char, "a"), (.endOfInput, "")] := by
  have hfraction : HasFraction "1.25E-3".toList ['2', '5'] := by
    have hrun : ∀ digits : List Char, digits ≠ [] → digits.all Char.isDigit = true →
        IsDigitRun digits := fun digits hne hall => ⟨hne, List.all_eq_true.mp hall⟩
    refine ⟨['1'], ['.', '2', '5'], ['E', '-', '3'], rfl, hrun _ (by decide) (by decide),
      Or.inr ⟨rfl, hrun _ (by decide) (by decide)⟩, Or.inr ⟨'E', by decide, _, rfl, Or.inr ?_⟩⟩
    exact ⟨'-', by decide, ['3'], rfl, hrun _ (by decide) (by decide)⟩
  have hsegs : segments "x='a".toList =
      [⟨.word, ['x']⟩, ⟨.operator, ['=']⟩, ⟨.char ['a'] false, ['\'', 'a']⟩] := by
    show segments ['x', '=', '\'', 'a'] = _
    rw [segments_cons, show classify 'x' _ = (.word, 0) from rfl]
    dsimp only [List.take, List.drop]
    rw [segments_cons, show classify '=' _ = (.operator, 0) from rfl]
    dsimp only [List.take, List.drop]
    rw [segments_cons, show classify '\'' _ = (.char ['a'] false, 1) from rfl]
    dsimp only [List.take, List.drop]
    rw [segments]
  have htokens : tokenize "x='a" = [⟨.identifier, "x", 1⟩, ⟨.operator, "=", 1⟩, ⟨.char, "a", 1⟩,
      ⟨.endOfInput, "", 1⟩] := by
    rw [tokenize, hsegs]; rfl
  constructor
  · refine ⟨_, rfl, ?_⟩
    obtain ⟨ht, hf⟩ := lexing_undoes_writing.1 [⟨.string, "\"\\n\n", 9⟩, ⟨.char, "'", 9⟩,
      ⟨.char, "\\", 9⟩, ⟨.operator, "/", 9⟩, ⟨.operator, "*", 9⟩, ⟨.keyword, "int", 9⟩,
      ⟨.number, "1.25E-3", 9⟩] 1 (by
        simp only [List.forall_mem_cons]
        exact ⟨trivial, ⟨_, rfl⟩, ⟨_, rfl⟩, ⟨_, by decide, Or.inl rfl⟩, ⟨_, by decide, Or.inl rfl⟩,
          (by decide : "int" ∈ keywords), ⟨_, hfraction⟩, by simp⟩)
    have hlong : Token.HasLongFraction 1 ⟨.number, "1.25E-3", 2⟩ :=
      ⟨rfl, _, hfraction, by decide, by decide⟩
    have hother : ∀ kind lexeme line, kind ≠ .number →
        ¬ Token.HasLongFraction 1 ⟨kind, lexeme, line⟩ := fun _ _ _ hk hl => hk hl.1
    refine ⟨ht, hf.trans ?_⟩
    show longFractions 1 [⟨.string, "\"\\n\n", 1⟩, ⟨.char, "'", 2⟩, ⟨.char, "\\", 2⟩,
      ⟨.operator, "/", 2⟩, ⟨.operator, "*", 2⟩, ⟨.keyword, "int", 2⟩, ⟨.number, "1.25E-3", 2⟩,
      ⟨.endOfInput, "", 2⟩] = _
    simp [longFractions, hlong, hother]
  · rw [lexing_undoes_writing.2, htokens]
    · rfl
    · rw [htokens]; decide

end BlockLang
