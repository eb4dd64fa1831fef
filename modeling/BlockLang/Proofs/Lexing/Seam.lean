import BlockLang.Proofs.Lexing.Diagnostics
import BlockLang.Proofs.Lexing.Writing

/-! # Lexing line by line

What is cut off from a text does not change when the text behind it does, as long as a blank comes
next (`Segment.Heads.before_blank`). Words, numerals and operators have no blanks, so no longer one
reaches over it; a character literal does not end in it; and a comment or a string literal that has
its end does not look further. What matters is only that a line comment at the seam ends there, and
that nothing at the seam is unclosed.

* `Segment.Unclosed`: a comment or a literal without its end. Each is reported, in words that start
  with `Unclosed ` (`Segment.Unclosed.exists_problem`).
* `Token.lower`, `Record.lower`: a token or a record some lines below.
* `segments_append_newline`: a text without unclosed segments, a line break and another text are cut
  into the segments of the two texts and a blank. So the tokens and the records of the whole are
  those of the two texts (`lexing_by_lines`). -/

namespace BlockLang

variable {limit : Int}

section Seam
variable {text more w r : List Char} {b : Char} (hb : Text.isBlank b = true)
include hb

theorem prefix_append_of_language {L : List Char → Prop}
    (hL : ∀ l, L l → ∀ c ∈ l, Text.isBlank c = false) {l : List Char} (hl : L l)
    (h : l <+: text ++ b :: more) : l <+: text ++ w := by
  refine (prefix_of_prefix_before h fun hm => ?_).trans (List.prefix_append text w)
  rw [hL l hl b hm] at hb
  cases hb

theorem Longest.before_blank {L : List Char → Prop}
    (hL : ∀ l, L l → ∀ c ∈ l, Text.isBlank c = false) {lexeme : List Char}
    (h : Longest L lexeme (r ++ w)) : Longest L lexeme (r ++ b :: more) := by
  refine ⟨h.mem, fun l hl hp => h.length_le l hl ?_⟩
  rw [← List.append_assoc] at hp ⊢
  exact prefix_append_of_language hb hL hl hp

/-! ### Rules at a seam -/

namespace ScanRule

/-- A rule that applies where a blank follows on some text applies with anything in its place. The
converse fails: what comes behind `/` can make it a comment. -/
theorem Applies.of_before_blank {rule : ScanRule} (hne : text ≠ [])
    (h : rule.Applies (text ++ b :: more)) : rule.Applies (text ++ w) := by
  obtain ⟨c, cs, rfl⟩ := List.exists_cons_of_ne_nil hne
  have hsigns : ∀ l, l = ['/', '/'] ∨ l = ['/', '*'] → ∀ c ∈ l, Text.isBlank c = false := by
    rintro l (rfl | rfl)
    · exact not_isBlank_of_all (by decide)
    · exact not_isBlank_of_all (by decide)
  cases rule with
  | blank => exact applies_blank.mpr (applies_blank.mp h)
  | punctuation => exact applies_punctuation.mpr (applies_punctuation.mp h)
  | string => exact applies_string.mpr (applies_string.mp h)
  | char => exact applies_char.mpr (applies_char.mp h)
  | comment =>
    exact h.imp (prefix_append_of_language hb hsigns (Or.inl rfl))
      (prefix_append_of_language hb hsigns (Or.inr rfl))
  | word =>
    obtain ⟨l, hp, hl⟩ := h
    exact ⟨l, prefix_append_of_language hb (fun _ => IsWord.not_isBlank) hl hp, hl⟩
  | number =>
    obtain ⟨l, hp, hl⟩ := h
    exact ⟨l, prefix_append_of_language hb (fun _ => IsNumeral.not_isBlank) hl hp, hl⟩
  | operator =>
    obtain ⟨l, hp, hl⟩ := h
    exact ⟨l, prefix_append_of_language hb (fun _ => IsOperator.not_isBlank) hl hp, hl⟩
  | invalid => exact List.cons_ne_nil c _

end ScanRule

end Seam

theorem ScanRule.Takes.applies {rule : ScanRule} {s : Segment} {rest : List Char}
    (ht : rule.Takes s rest) (ha : rule.Applies (s.text ++ rest)) (rest' : List Char) :
    rule.Applies (s.text ++ rest') := by
  cases ht with
  | blank => exact applies_blank.mpr (applies_blank.mp ha)
  | openBrace | closeBrace | semicolon => exact applies_punctuation.mpr (by decide)
  | lineComment => exact Or.inl ⟨_, rfl⟩
  | blockComment | openComment => exact Or.inr ⟨_, rfl⟩
  | string | openString | openEscape => rfl
  | char | openChar | emptyChar | emptyEscape => rfl
  | word hl | number hl | operator hl => exact ⟨_, List.prefix_append _ _, hl.mem⟩
  | invalid => exact List.cons_ne_nil _ _

/-- A comment or a literal without its end. -/
inductive Segment.Unclosed : Segment → Prop
  | comment {text : List Char} : Unclosed ⟨.blockComment false, text⟩
  | string {value text : List Char} : Unclosed ⟨.string value false, text⟩
  | char {value text : List Char} : Unclosed ⟨.char value false, text⟩

theorem ScanRule.Takes.before_blank {rule : ScanRule} {s : Segment} {rest r w : List Char}
    {b : Char} (ht : rule.Takes s rest) (hrest : rest = r ++ w) (hb : Text.isBlank b = true)
    (hline : s.shape = .lineComment → r = [] → b = '\n') (hopen : rest = [] → ¬ s.Unclosed)
    (more : List Char) : rule.Takes s (r ++ b :: more) := by
  cases ht with
  | lineComment hbody hr =>
    refine .lineComment hbody fun c hc => ?_
    rcases r with _ | ⟨d, r⟩
    · obtain rfl := Option.some.inj hc
      exact hline rfl rfl
    · exact hr c (hrest ▸ hc)
  | openChar hp hr =>
    refine .openChar hp fun hhead => ?_
    rcases r with _ | ⟨d, r⟩
    · obtain rfl := Option.some.inj hhead
      cases hb
    · exact hr (hrest ▸ hhead)
  | word hl => subst hrest; exact .word (hl.before_blank hb fun _ => IsWord.not_isBlank)
  | number hl => subst hrest; exact .number (hl.before_blank hb fun _ => IsNumeral.not_isBlank)
  | operator hl =>
    subst hrest; exact .operator (hl.before_blank hb fun _ => IsOperator.not_isBlank)
  -- what has no end has taken all the text
  | openComment => exact absurd .comment (hopen rfl)
  | openString | openEscape => exact absurd .string (hopen rfl)
  | emptyChar | emptyEscape => exact absurd .char (hopen rfl)
  | blank => exact .blank
  | openBrace => exact .openBrace
  | closeBrace => exact .closeBrace
  | semicolon => exact .semicolon
  | blockComment hbody => exact .blockComment hbody
  | string hq => exact .string hq
  | char hp => exact .char hp
  | invalid => exact .invalid

/-- **A segment that heads a text heads it still when a blank comes**, at once or later. A line
comment lasts as long as the line, and an unclosed segment must not have taken all the text. -/
theorem Segment.Heads.before_blank {s : Segment} {r w : List Char} {b : Char} (h : s.Heads (r ++ w))
    (hb : Text.isBlank b = true) (hline : s.shape = .lineComment → r = [] → b = '\n')
    (hopen : r ++ w = [] → ¬ s.Unclosed) (more : List Char) : s.Heads (r ++ b :: more) := by
  have hne : s.text ++ r ≠ [] := fun hnil => h.text_ne_nil (List.append_eq_nil_iff.mp hnil).1
  obtain ⟨rule, ⟨ha, hfirst⟩, ht⟩ := h
  refine ⟨rule, ⟨ht.applies ha _, fun rule' hp ha' => hfirst rule' hp ?_⟩,
    ht.before_blank rfl hb hline hopen more⟩
  rw [← List.append_assoc] at ha' ⊢
  exact ha'.of_before_blank hb hne

/-! ### Segments at a seam -/

theorem Segmentation.exists_of_cons {text : List Char} {s : Segment} {segs : List Segment}
    (h : Segmentation text (s :: segs)) :
    ∃ rest, text = s.text ++ rest ∧ s.Heads rest ∧ Segmentation rest segs := by
  cases h with
  | cons hs h => exact ⟨_, rfl, hs, h⟩

theorem Segmentation.eq_nil_of_flatMap {text : List Char} {segs tail : List Segment}
    (h : Segmentation text (segs ++ tail)) (hnil : segs.flatMap Segment.text = []) : segs = [] := by
  refine List.eq_nil_iff_forall_not_mem.mpr fun s hs => ?_
  obtain ⟨rest, hh⟩ := h.exists_heads (List.mem_append_left tail hs)
  exact hh.text_ne_nil (List.flatMap_eq_nil_iff.mp hnil s hs)

/-- **The first segments of a text stay what they are when a blank comes behind them**, in place of
what did. Only the last of them can look at what comes next. -/
theorem Segmentation.before_blank {text w more : List Char} {segs tail later : List Segment}
    {b : Char} (h : Segmentation text (segs ++ tail))
    (htext : text = segs.flatMap Segment.text ++ w) (hb : Text.isBlank b = true)
    (hmore : Segmentation more later)
    (hlast : ∀ s ∈ segs.getLast?,
      (s.shape = .lineComment → b = '\n') ∧ (w = [] → ¬ s.Unclosed)) :
    Segmentation (segs.flatMap Segment.text ++ b :: more) (segs ++ ⟨.blank, [b]⟩ :: later) := by
  induction segs generalizing text with
  | nil => exact .cons (heads_blank hb more) hmore
  | cons s segs ih =>
    obtain ⟨rest, rfl, hs, hrest⟩ := h.exists_of_cons
    rw [List.flatMap_cons, List.append_assoc] at htext
    obtain rfl := List.append_cancel_left htext
    -- where no text comes between the segment and the blank, it is the last one
    have hend : segs.flatMap Segment.text = [] → s ∈ (s :: segs).getLast? := fun hnil => by
      rw [hrest.eq_nil_of_flatMap hnil]; rfl
    have hs' := hs.before_blank hb (fun hl hnil => (hlast s (hend hnil)).1 hl)
      (fun hnil => (hlast s (hend (List.append_eq_nil_iff.mp hnil).1)).2
        (List.append_eq_nil_iff.mp hnil).2) more
    have ih' := ih hrest rfl fun s' hm => hlast s' (by
      rw [List.getLast?_cons, Option.mem_def.mp hm]; rfl)
    rw [List.flatMap_cons, List.append_assoc, List.cons_append]
    exact .cons hs' ih'

theorem flatMap_text_segments (text : List Char) :
    (segments text).flatMap Segment.text = text := by
  rw [List.flatMap_def, flatten_segments]

/-- **A line break cuts a text in two**, if nothing is unclosed before it. -/
theorem segments_append_newline {text : List Char} (h : ∀ s ∈ segments text, ¬ s.Unclosed)
    (more : List Char) :
    segments (text ++ '\n' :: more) = segments text ++ ⟨.blank, ['\n']⟩ :: segments more := by
  have htext : text = (segments text).flatMap Segment.text ++ [] := by
    rw [List.append_nil, flatMap_text_segments]
  have hseg : Segmentation text (segments text ++ []) := by
    rw [List.append_nil]; exact segmentation_segments text
  have hwhole := hseg.before_blank htext (b := '\n') (by decide) (segmentation_segments more)
    fun s hs => ⟨fun _ => rfl, fun _ => h s (List.mem_of_getLast? hs)⟩
  rw [flatMap_text_segments] at hwhole
  exact hwhole.eq_segments.symm

/-! ### Lines below -/

/-- A token some lines below. -/
def Token.lower (n : Int) (t : Token) : Token := { t with line := t.line + n }

/-- A record some lines below. -/
def Record.lower (n : Int) (r : Record) : Record := { r with line := r.line.map (· + n) }

theorem tokensFrom_add : ∀ (segs : List Segment) (line n : Int),
    tokensFrom (line + n) segs = (tokensFrom line segs).map (Token.lower n)
  | [], line, n => rfl
  | s :: segs, line, n => by
    have hline : line + n + lineBreaks s.text = line + lineBreaks s.text + n := by omega
    have htoken : s.token? (line + n) = (s.token? line).map (Token.lower n) := by
      rw [Segment.token?, Segment.token?, Option.map_map]; rfl
    rw [tokensFrom, tokensFrom, hline, tokensFrom_add segs, htoken, List.map_append,
      Option.toList_map]

theorem findingsFrom_append : ∀ (segs₁ segs₂ : List Segment) (line : Int),
    findingsFrom limit line (segs₁ ++ segs₂) = findingsFrom limit line segs₁ ++
      findingsFrom limit (line + lineBreaks (segs₁.flatMap Segment.text)) segs₂
  | [], segs₂, line => by simp [lineBreaks, findingsFrom]
  | s :: segs₁, segs₂, line => by
    have hline : line + lineBreaks s.text + lineBreaks (segs₁.flatMap Segment.text) =
        line + lineBreaks ((s :: segs₁).flatMap Segment.text) := by
      rw [List.flatMap_cons, lineBreaks_append]; omega
    rw [List.cons_append, findingsFrom, findingsFrom, findingsFrom_append segs₁, hline,
      List.append_assoc]

theorem records_add : ∀ (segs : List Segment) (line n : Int),
    (findingsFrom limit (line + n) segs).map Finding.record =
      ((findingsFrom limit line segs).map Finding.record).map (Record.lower n)
  | [], line, n => rfl
  | s :: segs, line, n => by
    have hline : line + n + lineBreaks s.text = line + lineBreaks s.text + n := by omega
    have hhead : ((s.problems limit).map (Finding.mk (line + n))).map Finding.record =
        (((s.problems limit).map (Finding.mk line)).map Finding.record).map (Record.lower n) := by
      simp only [List.map_map]; rfl
    rw [findingsFrom, findingsFrom, hline, List.map_append, List.map_append, List.map_append,
      hhead, records_add segs]

/-! ### What is reported as unclosed -/

theorem Segment.Unclosed.exists_problem {s : Segment} (h : s.Unclosed) (limit : Int) :
    ∃ p ∈ s.problems limit, "Unclosed ".toList <+: p.message.toList := by
  cases h with
  | comment => exact ⟨.unclosedComment, List.mem_singleton_self _, by decide⟩
  | string => exact ⟨.unclosedString, List.mem_singleton_self _, by decide⟩
  | char => exact ⟨.unclosedCharacter, List.mem_singleton_self _, by decide⟩

theorem exists_finding_of_mem : ∀ {segs : List Segment} {s : Segment} {p : Problem},
    s ∈ segs → p ∈ s.problems limit → ∀ line, ∃ f ∈ findingsFrom limit line segs, f.problem = p
  | s' :: segs, s, p, hs, hp, line => by
    rw [findingsFrom]
    rcases List.mem_cons.mp hs with rfl | hs
    · exact ⟨⟨line, p⟩, List.mem_append_left _ (List.mem_map_of_mem hp), rfl⟩
    · obtain ⟨f, hf, he⟩ := exists_finding_of_mem hs hp (line + lineBreaks s'.text)
      exact ⟨f, List.mem_append_right _ hf, he⟩

/-- **Lexing goes line by line.** Where nothing is reported as unclosed in a text, a line break and
another text add the tokens and the records of the other text, as many lines below as the first text
and the line break have. -/
theorem lexing_by_lines (limit : Int) (source₁ source₂ : String)
    (h : ∀ r ∈ (lexicalFindings limit source₁).map Finding.record,
      ¬ "Unclosed ".toList <+: r.message.toList) :
    ∃ tokens line, tokenize source₁ = tokens ++ [⟨.endOfInput, "", line⟩] ∧
      tokenize (source₁ ++ "\n" ++ source₂) = tokens ++
        (tokenize source₂).map (Token.lower (1 + source₁.toList.count '\n')) ∧
      (lexicalFindings limit (source₁ ++ "\n" ++ source₂)).map Finding.record =
        (lexicalFindings limit source₁).map Finding.record ++
          ((lexicalFindings limit source₂).map Finding.record).map
            (Record.lower (1 + source₁.toList.count '\n')) := by
  have hclosed : ∀ s ∈ segments source₁.toList, ¬ s.Unclosed := by
    intro s hs hu
    obtain ⟨p, hp, hm⟩ := hu.exists_problem limit
    obtain ⟨f, hf, rfl⟩ := exists_finding_of_mem hs hp 1
    exact h f.record (List.mem_map_of_mem hf) hm
  have htext : (source₁ ++ "\n" ++ source₂).toList = source₁.toList ++ '\n' :: source₂.toList := by
    simp
  have hsegs := segments_append_newline hclosed source₂.toList
  -- the line break is a blank, which is no token and has no problem
  have hline : (1 + lineBreaks source₁.toList : Int) + lineBreaks ['\n'] =
      1 + (1 + source₁.toList.count '\n') := by
    simp only [lineBreaks, List.count_singleton_self]; omega
  obtain ⟨tokens, line, rfl, h₁, h₂⟩ := exists_tokensFrom_append (segments source₁.toList)
    (⟨.blank, ['\n']⟩ :: segments source₂.toList) 1
  refine ⟨tokens, _, h₁, ?_, ?_⟩
  · rw [tokenize, htext, hsegs, h₂, flatMap_text_segments, tokensFrom_cons_of_skipped (Or.inl rfl),
      hline, tokensFrom_add]
    rfl
  · rw [lexicalFindings, htext, hsegs, findingsFrom_append, flatMap_text_segments, List.map_append,
      findingsFrom, hline]
    exact congrArg _ (records_add _ _ _)

/-- A number that backs off, a line comment at the seam, and an open literal behind it. -/
theorem lexing_by_lines_of_comment :
    ∃ tokens line, tokenize "\n2E//" = tokens ++ [⟨.endOfInput, "", line⟩] ∧
      tokenize ("\n2E//" ++ "\n" ++ "5'") = tokens ++
        [⟨.number, "5", 3⟩, ⟨.char, "", 3⟩, ⟨.endOfInput, "", 3⟩] ∧
      (lexicalFindings 5 ("\n2E//" ++ "\n" ++ "5'")).map Finding.record =
        [⟨.lexical, some 2, "Invalid character: 'E'"⟩,
         ⟨.lexical, some 3, "Unclosed character literal"⟩] := by
  have hfirst : (lexicalFindings 5 "\n2E//").map Finding.record =
      [⟨.lexical, some 2, "Invalid character: 'E'"⟩] := by decide +kernel
  have htokens : tokenize "5'" = [⟨.number, "5", 1⟩, ⟨.char, "", 1⟩, ⟨.endOfInput, "", 1⟩] := by
    decide +kernel
  have hsecond : (lexicalFindings 5 "5'").map Finding.record =
      [⟨.lexical, some 1, "Unclosed character literal"⟩] := by decide +kernel
  obtain ⟨tokens, line, h₁, h₂, h₃⟩ := lexing_by_lines 5 "\n2E//" "5'"
    (by rw [hfirst]; decide)
  refine ⟨tokens, line, h₁, ?_, ?_⟩
  · rw [h₂, htokens]; rfl
  · rw [h₃, hfirst, hsecond]; rfl

end BlockLang
