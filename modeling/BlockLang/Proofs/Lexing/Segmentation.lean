import BlockLang.FrontEnd
import BlockLang.Proofs.Lexing.Literal
import BlockLang.Proofs.Text.Splitting
import Mathlib.Data.List.TakeWhile
import Mathlib.Order.WellFounded

/-! # The segmentation of a program text

The function `segments` carries out the rules of the scan: what it gives is a segmentation, and the
only one (`segmentation_iff`).

* `ScanRule.exists_isFirst`, `ScanRule.exists_takes`: at every place of a text some rule is the
  first that applies, and it takes a segment.
* `classify_of_takes`: what the first rule takes is what `classify` gives; one case per rule.
* `tokenizes_tokensFrom`: the tokens of a segmentation. -/

namespace BlockLang

open Automaton

variable {c : Char} {rest : List Char}

namespace ScanRule

/-! ### When a rule applies -/

theorem applies_blank : blank.Applies (c :: rest) ↔ Text.isBlank c = true := by
  simp [Applies]

theorem applies_punctuation : punctuation.Applies (c :: rest) ↔ c ∈ ['{', '}', ';'] := by
  simp only [Applies, List.head?_cons, Option.mem_some_iff, exists_eq_left']

theorem applies_comment :
    comment.Applies (c :: rest) ↔ c = '/' ∧ classifyComment? rest ≠ none := by
  show ['/', '/'] <+: c :: rest ∨ ['/', '*'] <+: c :: rest ↔ _
  rw [List.cons_prefix_cons, List.cons_prefix_cons, ← and_or_left, @eq_comm _ '/' c]
  refine and_congr_right fun _ => ?_
  rcases rest with _ | ⟨d, cs⟩
  · simp [classifyComment?]
  · simp only [List.cons_prefix_cons, List.nil_prefix, and_true]
    by_cases h1 : '/' = d
    · subst h1; simp [classifyComment?]
    by_cases h2 : '*' = d
    · subst h2
      refine iff_of_true (Or.inr rfl) ?_
      rw [classifyComment?.eq_2]
      rcases blockEnd? cs with _ | n <;> simp
    · rw [classifyComment?.eq_3]
      · simp [h1, h2]
      · rintro _ h; cases h; exact h1 rfl
      · rintro _ h; cases h; exact h2 rfl

theorem applies_string : string.Applies (c :: rest) ↔ c = '"' := by
  simp [Applies]

theorem applies_char : char.Applies (c :: rest) ↔ c = '\'' := by
  simp [Applies]

theorem applies_word : word.Applies (c :: rest) ↔ identifier.longestMatch (c :: rest) ≠ 0 :=
  (longestMatch_ne_zero_iff fun _ => matches_identifier_iff).symm

theorem applies_number :
    number.Applies (c :: rest) ↔ Automaton.number.longestMatch (c :: rest) ≠ 0 :=
  (longestMatch_ne_zero_iff fun _ => matches_number_iff).symm

theorem applies_operator :
    operator.Applies (c :: rest) ↔ Automaton.operator.longestMatch (c :: rest) ≠ 0 :=
  (longestMatch_ne_zero_iff fun _ => matches_operator_iff).symm

theorem exists_isFirst {text : List Char} (h : text ≠ []) : ∃ r : ScanRule, r.IsFirst text := by
  obtain ⟨r, hr, hmin⟩ := (measure fun r => order.idxOf r).wf.has_min
    {r : ScanRule | r.Applies text} ⟨invalid, h⟩
  exact ⟨r, hr, fun r' hp ha => hmin r' ha hp⟩

/-- **The first rule takes a segment.** -/
theorem exists_takes {r : ScanRule} {text : List Char} (h : r.Applies text) :
    ∃ s rest, text = s.text ++ rest ∧ r.Takes s rest := by
  cases r with
  | blank =>
    obtain ⟨c, hc, -⟩ := h
    obtain ⟨rest, rfl⟩ := List.head?_eq_some_iff.mp hc
    exact ⟨_, rest, rfl, .blank⟩
  | punctuation =>
    obtain ⟨c, hc, hm⟩ := h
    obtain ⟨rest, rfl⟩ := List.head?_eq_some_iff.mp hc
    simp only [List.mem_cons, List.not_mem_nil, or_false] at hm
    rcases hm with rfl | rfl | rfl
    · exact ⟨_, rest, rfl, .openBrace⟩
    · exact ⟨_, rest, rfl, .closeBrace⟩
    · exact ⟨_, rest, rfl, .semicolon⟩
  | comment =>
    rcases h with ⟨cs, rfl⟩ | ⟨cs, rfl⟩
    · refine ⟨⟨.lineComment, '/' :: '/' :: cs.takeWhile (· ≠ '\n')⟩, cs.dropWhile (· ≠ '\n'), ?_,
        .lineComment (fun hm => ?_) fun c hc => ?_⟩
      · simp [List.takeWhile_append_dropWhile]
      · have := List.mem_takeWhile_imp hm; simp at this
      · have := List.head?_dropWhile_not (fun x => decide (x ≠ '\n')) cs
        rw [Option.mem_def.mp hc] at this
        simpa using this
    · rcases hb : blockEnd? cs with _ | n
      · exact ⟨_, [], (List.append_nil _).symm, .openComment (blockEnd?_eq_none_iff.mp hb)⟩
      · obtain ⟨body, rest, rfl, -, hi⟩ := exists_of_blockEnd? hb
        exact ⟨_, rest, by simp, .blockComment hi⟩
  | string =>
    obtain ⟨cs, rfl⟩ := List.head?_eq_some_iff.mp h
    rcases quoted_cases cs with ⟨body, value, rest, rfl, hq⟩ | ⟨value, hq⟩ | ⟨body, value, rfl, hq⟩
    · exact ⟨_, rest, by simp, .string hq⟩
    · exact ⟨_, [], (List.append_nil _).symm, .openString hq⟩
    · exact ⟨_, [], (List.append_nil _).symm, .openEscape hq⟩
  | char =>
    obtain ⟨cs, rfl⟩ := List.head?_eq_some_iff.mp h
    rcases spells_cases cs with rfl | rfl | ⟨piece, c, rest, rfl, hp⟩
    · exact ⟨_, [], rfl, .emptyChar⟩
    · exact ⟨_, [], rfl, .emptyEscape⟩
    · by_cases hq : rest.head? = some '\''
      · obtain ⟨rest, rfl⟩ := List.head?_eq_some_iff.mp hq
        exact ⟨_, rest, by simp, .char hp⟩
      · exact ⟨_, rest, rfl, .openChar hp hq⟩
  | word =>
    obtain ⟨lexeme, rest, rfl, hl⟩ := exists_longest (fun _ => matches_identifier_iff) h
    exact ⟨_, rest, rfl, .word hl⟩
  | number =>
    obtain ⟨lexeme, rest, rfl, hl⟩ := exists_longest (fun _ => matches_number_iff) h
    exact ⟨_, rest, rfl, .number hl⟩
  | operator =>
    obtain ⟨lexeme, rest, rfl, hl⟩ := exists_longest (fun _ => matches_operator_iff) h
    exact ⟨_, rest, rfl, .operator hl⟩
  | invalid =>
    obtain ⟨c, rest, rfl⟩ := List.exists_cons_of_ne_nil h
    exact ⟨_, rest, rfl, .invalid⟩

end ScanRule

/-! ### What the first rule takes -/

theorem classify_blank (h : Text.isBlank c = true) : classify c rest = (.blank, 0) := by
  rw [classify, if_pos h]

theorem classify_slash (rest : List Char) :
    classify '/' rest = (classifyComment? rest).getD (classifyMatch '/' rest) := rfl

theorem classify_quote (rest : List Char) :
    classify '"' rest = (.string (stringBody rest).value (stringBody rest).closed,
      (stringBody rest).length) := rfl

theorem classify_apostrophe (rest : List Char) :
    classify '\'' rest = (.char (charBody rest).value (charBody rest).closed,
      (charBody rest).length) := rfl

theorem classify_eq_classifyMatch {r : ScanRule} (h : r.IsFirst (c :: rest))
    (hr : ScanRule.char.Precedes r) : classify c rest = classifyMatch c rest := by
  have hn : ∀ r' : ScanRule, ScanRule.order.idxOf r' ≤ ScanRule.order.idxOf ScanRule.char →
      ¬ r'.Applies (c :: rest) := fun r' hle => h.2 r' (Nat.lt_of_le_of_lt hle hr)
  have hblank := hn .blank (by decide)
  have hpunct := hn .punctuation (by decide)
  have hcomment := hn .comment (by decide)
  have hstring := hn .string (by decide)
  have hchar := hn .char (by decide)
  rw [ScanRule.applies_blank] at hblank
  rw [ScanRule.applies_punctuation] at hpunct
  rw [ScanRule.applies_comment, not_and, not_not] at hcomment
  rw [ScanRule.applies_string] at hstring
  rw [ScanRule.applies_char] at hchar
  simp only [List.mem_cons, List.not_mem_nil, or_false, not_or] at hpunct
  rw [classify, if_neg hblank, if_neg hpunct.1, if_neg hpunct.2.1, if_neg hpunct.2.2,
    if_neg hstring, if_neg hchar]
  by_cases hs : c = '/'
  · rw [if_pos hs, hcomment hs]; rfl
  · rw [if_neg hs]

theorem classifyComment?_of_takes {shape : Shape} {cs : List Char}
    (ht : ScanRule.comment.Takes ⟨shape, '/' :: cs⟩ rest) :
    classifyComment? (cs ++ rest) = some (shape, cs.length) := by
  cases ht with
  | @lineComment body _ hb hr =>
    have hstop : ∀ c ∈ rest.head?, decide (c ≠ '\n') = false := by
      intro c hc
      simp [hr c hc]
    rw [List.cons_append, classifyComment?.eq_1,
      takeWhile_append_of_stop (decide_ne_of_notMem hb) hstop]
    simp [Nat.add_comm]
  | @blockComment body _ hi =>
    have hend : blockEnd? (body ++ (['*', '/'] ++ rest)) = some (body.length + 2) :=
      blockEnd?_append hi
    rw [List.cons_append, List.append_assoc, classifyComment?.eq_2, hend]
    simp [Nat.add_comm]
  | @openComment body hi =>
    rw [List.cons_append, List.append_nil, classifyComment?.eq_2, blockEnd?_eq_none_iff.mpr hi]
    simp [Nat.add_comm]

theorem stringBody_of_takes {shape : Shape} {cs : List Char}
    (ht : ScanRule.string.Takes ⟨shape, '"' :: cs⟩ rest) :
    ∃ value closed, shape = .string value closed ∧
      stringBody (cs ++ rest) = ⟨value, cs.length, closed⟩ := by
  cases ht with
  | @string body value _ hq =>
    refine ⟨value, true, rfl, ?_⟩
    rw [List.append_assoc, List.singleton_append, stringBody_closed hq, List.length_append]
    rfl
  | openString hq => exact ⟨_, false, rfl, by rw [List.append_nil, stringBody_open hq]⟩
  | @openEscape body value hq =>
    refine ⟨value, false, rfl, ?_⟩
    rw [List.append_nil, stringBody_openEscape hq, List.length_append]
    rfl

theorem charBody_of_takes {shape : Shape} {cs : List Char}
    (ht : ScanRule.char.Takes ⟨shape, '\'' :: cs⟩ rest) :
    ∃ value closed, shape = .char value closed ∧
      charBody (cs ++ rest) = ⟨value, cs.length, closed⟩ := by
  cases ht with
  | @char piece _ d hp =>
    refine ⟨[d], true, rfl, ?_⟩
    rw [List.append_assoc, List.singleton_append, charBody_append hp, List.length_append]
    rfl
  | @openChar piece _ d hp hr =>
    refine ⟨[d], false, rfl, ?_⟩
    rw [charBody_append hp, charEnd_of_head?_ne hr]
    rfl
  | emptyChar => exact ⟨[], false, rfl, rfl⟩
  | emptyEscape => exact ⟨[], false, rfl, rfl⟩

theorem classifyMatch_of_takes {r : ScanRule} {shape : Shape} {cs : List Char}
    (hf : r.IsFirst (c :: (cs ++ rest))) (hr : ScanRule.char.Precedes r)
    (ht : r.Takes ⟨shape, c :: cs⟩ rest) :
    classifyMatch c (cs ++ rest) = (shape, cs.length) := by
  have hword : ScanRule.word.Precedes r → identifier.longestMatch (c :: (cs ++ rest)) = 0 :=
    fun hp => not_not.mp (mt ScanRule.applies_word.mpr (hf.2 .word hp))
  have hnumber : ScanRule.number.Precedes r → number.longestMatch (c :: (cs ++ rest)) = 0 :=
    fun hp => not_not.mp (mt ScanRule.applies_number.mpr (hf.2 .number hp))
  have hoperator : ScanRule.operator.Precedes r →
      operator.longestMatch (c :: (cs ++ rest)) = 0 :=
    fun hp => not_not.mp (mt ScanRule.applies_operator.mpr (hf.2 .operator hp))
  cases ht with
  | word hl =>
    rw [classifyMatch, longestMatch_cons_of_longest (fun _ => matches_identifier_iff) hl]
  | number hl =>
    rw [classifyMatch, hword (by decide),
      longestMatch_cons_of_longest (fun _ => matches_number_iff) hl]
  | operator hl =>
    rw [classifyMatch, hword (by decide), hnumber (by decide),
      longestMatch_cons_of_longest (fun _ => matches_operator_iff) hl]
  | invalid =>
    rw [List.nil_append] at hword hnumber hoperator
    rw [List.nil_append, classifyMatch, hword (by decide), hnumber (by decide),
      hoperator (by decide)]
    rfl
  | _ => exact absurd hr (by decide)

/-- **The first rule is the one that is carried out.** -/
theorem classify_of_takes {r : ScanRule} {shape : Shape} {cs : List Char}
    (hf : r.IsFirst (c :: (cs ++ rest))) (ht : r.Takes ⟨shape, c :: cs⟩ rest) :
    classify c (cs ++ rest) = (shape, cs.length) := by
  by_cases hr : ScanRule.char.Precedes r
  · rw [classify_eq_classifyMatch hf hr, classifyMatch_of_takes hf hr ht]
  cases r with
  | blank => cases ht; exact classify_blank (ScanRule.applies_blank.mp hf.1)
  | punctuation => cases ht <;> rfl
  | comment =>
    obtain rfl : c = '/' := (ScanRule.applies_comment.mp hf.1).1
    rw [classify_slash, classifyComment?_of_takes ht]
    rfl
  | string =>
    obtain rfl : c = '"' := ScanRule.applies_string.mp hf.1
    obtain ⟨value, closed, rfl, hb⟩ := stringBody_of_takes ht
    rw [classify_quote, hb]
  | char =>
    obtain rfl : c = '\'' := ScanRule.applies_char.mp hf.1
    obtain ⟨value, closed, rfl, hb⟩ := charBody_of_takes ht
    rw [classify_apostrophe, hb]
  | _ => exact absurd (by decide) hr

/-! ### The whole text -/

theorem Segment.Heads.text_ne_nil {s : Segment} (h : s.Heads rest) : s.text ≠ [] := by
  obtain ⟨r, -, ht⟩ := h
  cases ht with
  | word hl => exact hl.mem.1
  | number hl =>
    obtain ⟨digits, whole, point, exponent, he, hw, -⟩ := hl.mem
    exact fun h => hw.1 (List.append_eq_nil_iff.mp (he.symm.trans h)).1
  | operator hl =>
    obtain ⟨d, -, he | he⟩ := hl.mem
    · exact he ▸ List.cons_ne_nil _ _
    · exact he ▸ List.cons_ne_nil _ _
  | _ => exact List.cons_ne_nil _ _

theorem exists_heads {text : List Char} (h : text ≠ []) :
    ∃ s rest, text = s.text ++ rest ∧ Segment.Heads s rest := by
  obtain ⟨r, hr⟩ := ScanRule.exists_isFirst h
  obtain ⟨s, rest, rfl, ht⟩ := ScanRule.exists_takes hr.1
  exact ⟨s, rest, rfl, r, hr, ht⟩

/-- **A segment that heads a text is cut off.** -/
theorem segments_append {s : Segment} (h : s.Heads rest) :
    segments (s.text ++ rest) = s :: segments rest := by
  obtain ⟨c, cs, hs⟩ := List.exists_cons_of_ne_nil h.text_ne_nil
  obtain ⟨r, hf, ht⟩ := h
  obtain ⟨shape, text⟩ := s
  obtain rfl : text = c :: cs := hs
  rw [List.cons_append, segments_cons, classify_of_takes hf ht]
  dsimp only
  rw [List.take_left, List.drop_left]

theorem segmentation_segments (text : List Char) : Segmentation text (segments text) := by
  induction hn : text.length using Nat.strongRecOn generalizing text with
  | ind n ih =>
    by_cases h : text = []
    · subst h; rw [segments]; exact .nil
    · obtain ⟨s, rest, rfl, hs⟩ := exists_heads h
      have hpos := List.length_pos_iff.mpr hs.text_ne_nil
      rw [segments_append hs]
      exact .cons hs (ih rest.length (by rw [← hn, List.length_append]; omega) rest rfl)

theorem Segmentation.eq_segments {text : List Char} {segs : List Segment}
    (h : Segmentation text segs) : segs = segments text := by
  induction h with
  | nil => rw [segments]
  | cons hs _ ih => rw [segments_append hs, ih]

/-- **The function is the order of the scan.** -/
theorem segmentation_iff {text : List Char} {segs : List Segment} :
    Segmentation text segs ↔ segs = segments text :=
  ⟨Segmentation.eq_segments, fun h => h ▸ segmentation_segments text⟩

theorem Segmentation.exists_heads {text : List Char} {segs : List Segment}
    (h : Segmentation text segs) {s : Segment} (hs : s ∈ segs) : ∃ rest, s.Heads rest := by
  induction h with
  | nil => cases hs
  | @cons s' rest _ hh _ ih =>
    rcases List.mem_cons.mp hs with rfl | hs
    · exact ⟨rest, hh⟩
    · exact ih hs

/-! ### The tokens -/

theorem Segment.content?_eq_none_iff {s : Segment} : s.content? = none ↔ s.IsSkipped := by
  obtain ⟨shape, text⟩ := s
  cases shape <;> simp [Segment.content?, Segment.IsSkipped]

theorem Segment.denotes_word (text : List Char) :
    Segment.Denotes ⟨.word, text⟩ (wordKind (String.ofList text)) text := by
  unfold wordKind
  split
  · next h => exact .keyword h
  · next h => exact .identifier h

theorem Segment.content?_eq_some_iff {s : Segment} {kind : TokenKind} {lexeme : List Char} :
    s.content? = some (kind, String.ofList lexeme) ↔ s.Denotes kind lexeme := by
  constructor
  · obtain ⟨shape, text⟩ := s
    intro h
    cases shape
    case word =>
      obtain ⟨rfl, hl⟩ : wordKind (String.ofList text) = kind ∧
          String.ofList text = String.ofList lexeme := by
        simpa only [Segment.content?, Segment.lexeme, Option.some.injEq, Prod.mk.injEq] using h
      obtain rfl := String.ofList_inj.mp hl
      exact Segment.denotes_word text
    all_goals
      simp only [Segment.content?, Segment.lexeme, Option.some.injEq, Prod.mk.injEq,
        String.ofList_inj, reduceCtorEq] at h
    all_goals
      obtain ⟨rfl, rfl⟩ := h
      constructor
  · intro h
    cases h with
    | keyword hm => simp [Segment.content?, wordKind, Segment.lexeme, hm]
    | identifier hm => simp [Segment.content?, wordKind, Segment.lexeme, hm]
    | _ => rfl

theorem tokensFrom_cons_of_skipped {s : Segment} (h : s.IsSkipped) (line : Int)
    (segs : List Segment) :
    tokensFrom line (s :: segs) = tokensFrom (line + lineBreaks s.text) segs := by
  rw [tokensFrom, Segment.token?, Segment.content?_eq_none_iff.mpr h]; rfl

theorem tokensFrom_cons_of_denotes {s : Segment} {kind : TokenKind} {lexeme : List Char}
    (h : s.Denotes kind lexeme) (line : Int) (segs : List Segment) :
    tokensFrom line (s :: segs) =
      ⟨kind, String.ofList lexeme, line⟩ :: tokensFrom (line + lineBreaks s.text) segs := by
  rw [tokensFrom, Segment.token?, Segment.content?_eq_some_iff.mpr h]; rfl

theorem lineBreaks_append (text text' : List Char) :
    lineBreaks (text ++ text') = lineBreaks text + lineBreaks text' := List.count_append

theorem line_append (before text : List Char) :
    (1 + before.count '\n' : Int) + lineBreaks text = 1 + (before ++ text).count '\n' := by
  rw [lineBreaks, List.count_append]; omega

theorem tokenizes_tokensFrom : ∀ (segs : List Segment) (before : List Char),
    Tokenizes before segs (tokensFrom (1 + before.count '\n') segs)
  | [], before => .endOfInput
  | s :: segs, before => by
    have ih := tokenizes_tokensFrom segs (before ++ s.text)
    rw [← line_append] at ih
    rcases h : s.content? with _ | ⟨kind, lexeme⟩
    · have hs := Segment.content?_eq_none_iff.mp h
      rw [tokensFrom_cons_of_skipped hs]; exact .skip hs ih
    · rw [← String.ofList_toList (s := lexeme)] at h
      have hs := Segment.content?_eq_some_iff.mp h
      rw [tokensFrom_cons_of_denotes hs]; exact .token hs ih

/-- **The tokens of some segments are those that are read off them.** -/
theorem tokenizes_iff {before : List Char} {segs : List Segment} {tokens : List Token} :
    Tokenizes before segs tokens ↔ tokens = tokensFrom (1 + before.count '\n') segs := by
  constructor
  · intro h
    induction h with
    | endOfInput => rfl
    | skip hs _ ih => rw [tokensFrom_cons_of_skipped hs, line_append]; exact ih
    | token hs _ ih => rw [tokensFrom_cons_of_denotes hs, line_append, ih]
  · rintro rfl; exact tokenizes_tokensFrom segs before

theorem exists_tokensFrom_eq : ∀ (segs : List Segment) (line : Int), ∃ tokens line',
    tokensFrom line segs = tokens ++ [⟨.endOfInput, "", line'⟩] ∧
      ∀ t ∈ tokens, ∃ s ∈ segs, s.Denotes t.kind t.lexeme.toList
  | [], line => ⟨[], line, rfl, by simp⟩
  | s :: segs, line => by
    obtain ⟨tokens, line', he, ht⟩ := exists_tokensFrom_eq segs (line + lineBreaks s.text)
    have hrest : ∀ t ∈ tokens, ∃ s' ∈ s :: segs, s'.Denotes t.kind t.lexeme.toList := by
      intro t hm
      obtain ⟨s', hs', hd⟩ := ht t hm
      exact ⟨s', List.mem_cons_of_mem s hs', hd⟩
    rcases h : s.content? with _ | ⟨kind, lexeme⟩
    · rw [tokensFrom_cons_of_skipped (Segment.content?_eq_none_iff.mp h), he]
      exact ⟨tokens, line', rfl, hrest⟩
    · rw [← String.ofList_toList (s := lexeme)] at h
      have hs := Segment.content?_eq_some_iff.mp h
      rw [tokensFrom_cons_of_denotes hs, he]
      refine ⟨_ :: tokens, line', rfl, fun t hm => ?_⟩
      rcases List.mem_cons.mp hm with rfl | hm
      · refine ⟨s, List.mem_cons_self, ?_⟩
        rw [String.ofList_toList]
        exact hs
      · exact hrest t hm

/-- **The tokens of a program are those of its segmentation.** There is one and only one way to cut
a program text by the order of the scan. Its segments are non-empty and together they are the text,
and the tokens of the program are exactly the tokens of these segments. -/
theorem tokens_of_unique_segmentation (options : Options) (source filename : String) :
    ∃ segs, Segmentation source.toList segs ∧
      (∀ segs', Segmentation source.toList segs' → segs' = segs) ∧
      (segs.map Segment.text).flatten = source.toList ∧ (∀ s ∈ segs, s.text ≠ []) ∧
      ∀ tokens, Tokenizes [] segs tokens ↔ tokens = (check options source filename).tokens := by
  refine ⟨segments source.toList, segmentation_segments _, fun _ h => h.eq_segments,
    flatten_segments _, fun _ => text_ne_nil_of_mem_segments, fun tokens => ?_⟩
  rw [tokenizes_iff]; rfl

end BlockLang
