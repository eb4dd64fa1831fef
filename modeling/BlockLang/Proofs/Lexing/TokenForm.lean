import BlockLang.Proofs.Lexing.RoundTrip
import BlockLang.Proofs.Report.SingleLine

/-! # The form of tokens

Every token of a program is of the form that its kind has, and what cannot be of that form is
reported.

* `Token.IsEmptyChar`: the one token out of form. It stands at the end of the text only, and is the
  last thing that is reported (`Segmentation.last_of_isEmptyChar`).
* `pairwise_line_tokensFrom`: the lines never decrease.
* `matchesExponent_of_longestMatch`: a numeral that is cut off has its exponent in form, so nothing
  is ever reported on an exponent (`not_prefix_invalidExponent`). -/

namespace BlockLang

variable {s : Segment} {rest : List Char}

/-! ### Empty character literals -/

theorem Segment.Heads.of_denotes_emptyChar (h : s.Heads rest) (hd : s.Denotes .char [])
    (limit : Int) : rest = [] ∧ s.problems limit = [.unclosedCharacter] := by
  obtain ⟨r, -, ht⟩ := h
  cases hd
  cases ht with
  | emptyChar | emptyEscape => exact ⟨rfl, rfl⟩

/-- **An empty character literal is the last token, and its record is the last one.** -/
theorem Segmentation.last_of_isEmptyChar {text : List Char} {segs : List Segment} {line : Int}
    {earlier later : List Token} {t : Token} (h : Segmentation text segs)
    (he : tokensFrom line segs = earlier ++ t :: later) (ht : t.IsEmptyChar) (limit : Int) :
    (∃ line', later = [⟨.endOfInput, "", line'⟩]) ∧
      ∃ rs, (findingsFrom limit line segs).map Finding.record =
        rs ++ [⟨.lexical, some t.line, "Unclosed character literal"⟩] := by
  induction h generalizing line earlier with
  | nil =>
    -- there is no token but the end of input
    have hm : t ∈ tokensFrom line [] := by
      rw [he]
      exact List.mem_append_right _ List.mem_cons_self
    rw [List.mem_singleton.mp hm] at ht
    cases ht.1
  | @cons s rest segs hs hsegs ih =>
    -- what comes before the last record does not matter
    have hlater : ∀ {earlier'}, tokensFrom (line + lineBreaks s.text) segs = earlier' ++ t :: later →
        (∃ line', later = [⟨.endOfInput, "", line'⟩]) ∧
          ∃ rs, (findingsFrom limit line (s :: segs)).map Finding.record =
            rs ++ [⟨.lexical, some t.line, "Unclosed character literal"⟩] := by
      intro earlier' he'
      obtain ⟨hlast, rs, hrs⟩ := ih he'
      refine ⟨hlast, ((s.problems limit).map (Finding.mk line)).map Finding.record ++ rs, ?_⟩
      rw [findingsFrom, List.map_append, hrs, List.append_assoc]
    rcases hc : s.content? with _ | ⟨kind, lexeme⟩
    · rw [tokensFrom_cons_of_skipped (Segment.content?_eq_none_iff.mp hc)] at he
      exact hlater he
    · rw [← String.ofList_toList (s := lexeme)] at hc
      have hd := Segment.content?_eq_some_iff.mp hc
      rw [tokensFrom_cons_of_denotes hd] at he
      rcases earlier with _ | ⟨u, earlier⟩
      · obtain ⟨rfl, rfl⟩ := List.cons.inj he
        obtain ⟨hkind, hlexeme⟩ := ht
        obtain rfl : kind = .char := hkind
        obtain rfl : lexeme = "" := String.ofList_toList.symm.trans hlexeme
        obtain ⟨rfl, hproblems⟩ := hs.of_denotes_emptyChar hd limit
        obtain rfl : segs = [] := by rw [hsegs.eq_segments, segments]
        exact ⟨⟨_, rfl⟩, [], by rw [findingsFrom, hproblems]; rfl⟩
      · exact hlater (List.cons.inj he).2

/-! ### Lines -/

/-- **The lines of tokens never decrease.** -/
theorem pairwise_line_tokensFrom : ∀ (segs : List Segment) (line : Int),
    ((tokensFrom line segs).map Token.line).Pairwise (· ≤ ·)
  | [], line => List.pairwise_singleton _ _
  | s :: segs, line => by
    have ih := pairwise_line_tokensFrom segs (line + lineBreaks s.text)
    rcases hc : s.content? with _ | ⟨kind, lexeme⟩
    · rw [tokensFrom_cons_of_skipped (Segment.content?_eq_none_iff.mp hc)]
      exact ih
    · rw [← String.ofList_toList (s := lexeme)] at hc
      rw [tokensFrom_cons_of_denotes (Segment.content?_eq_some_iff.mp hc), List.map_cons]
      refine .cons (fun n hn => ?_) ih
      obtain ⟨t, ht, rfl⟩ := List.mem_map.mp hn
      have hle := le_line_of_mem_tokensFrom ht
      show line ≤ t.line
      omega

/-! ### Exponents -/

theorem Problem.exists_of_prefix_invalidExponent {p : Problem}
    (h : "Invalid exponent".toList <+: p.message.toList) : ∃ lexeme, p = .invalidExponent lexeme := by
  have hopening : p.opening = "Invalid exponent: " := opening_eq_of_starts (by decide) h
  cases p with
  | invalidExponent lexeme => exact ⟨lexeme, rfl⟩
  | missingAssign form _ | missingSemicolon form _ => cases form <;> simp [opening] at hopening
  | _ => simp [opening] at hopening

/-- **No exponent of a numeral that is cut off is at fault.** -/
theorem Segment.Heads.invalidExponent_notMem (h : s.Heads rest) (limit : Int) (lexeme : String) :
    .invalidExponent lexeme ∉ s.problems limit := by
  obtain ⟨r, -, ht⟩ := h
  cases ht with
  | number hl =>
    obtain ⟨digits, hd⟩ := hl.mem
    rw [Segment.problems_number limit hd]
    split <;> simp
  | _ => simp [Segment.problems]

/-- **Nothing is ever reported on an exponent.** -/
theorem not_prefix_invalidExponent {options : Options} {source filename : String} {f : Finding}
    (h : f ∈ (check options source filename).findings) :
    ¬ "Invalid exponent".toList <+: f.record.message.toList := by
  intro hprefix
  obtain ⟨lexeme, he⟩ := Problem.exists_of_prefix_invalidExponent hprefix
  rcases List.mem_append.mp h with h | h
  · obtain ⟨-, s, hs, hp⟩ := exists_segment_of_mem h
    obtain ⟨rest, hh⟩ := (segmentation_segments source.toList).exists_heads hs
    rw [he] at hp
    exact hh.invalidExponent_notMem _ _ hp
  · have hkind := (concerns_check h).kind
    rw [he] at hkind
    cases hkind

/-- **What the automaton takes of a text matches the pattern of an exponent**, if it has a
marker. -/
theorem matchesExponent_of_longestMatch {text : List Char}
    (h : ∃ c ∈ text.take (Automaton.number.longestMatch text), c ∈ ['E', 'e']) :
    MatchesExponent (text.take (Automaton.number.longestMatch text)) := by
  obtain ⟨c, hc, hm⟩ := h
  have hne : Automaton.number.longestMatch text ≠ 0 := by
    intro h0
    rw [h0] at hc
    cases hc
  have hnumeral := Automaton.matches_number_iff.mp (Automaton.matches_take_longestMatch hne)
  exact hnumeral.matchesExponent (List.any_eq_true.mpr ⟨c, hc, isExponentMarker_iff.mpr hm⟩)

/-! ### All tokens -/

/-- **Every token of a program is of the form of its kind**, up to the end of input. Only a character
literal can be without a character. It is then the last token before the end of input, and the
record on it is the last one of the lexical records. The lines of the tokens never decrease. No
exponent is reported: whatever the automaton of numbers takes of a text, anywhere in it, matches the
pattern of an exponent in full if it has a marker. -/
theorem tokens_in_form (options : Options) (source filename : String) :
    ∃ tokens line,
      (check options source filename).tokens = tokens ++ [⟨.endOfInput, "", line⟩] ∧
      (∀ t ∈ tokens, t.WellFormed ∨ t.IsEmptyChar) ∧
      (∀ earlier t later, tokens = earlier ++ t :: later → t.IsEmptyChar → later = [] ∧
        ∃ rs, (lexicalFindings options.maxFractionDigits source).map Finding.record =
          rs ++ [⟨.lexical, some t.line, "Unclosed character literal"⟩]) ∧
      ((check options source filename).tokens.map Token.line).Pairwise (· ≤ ·) ∧
      (∀ r ∈ (check options source filename).records,
        ¬ "Invalid exponent".toList <+: r.message.toList) ∧
      ∀ (text : List Char) (offset : Int),
        (∃ c ∈ (text.drop offset.toNat).take (Automaton.number.longestMatchAt text offset),
          c ∈ ['E', 'e']) →
        MatchesExponent
          ((text.drop offset.toNat).take (Automaton.number.longestMatchAt text offset)) := by
  obtain ⟨tokens, line, he, hform⟩ := exists_tokens_eq source
  refine ⟨tokens, line, he, hform, fun earlier t later hsplit ht => ?_,
    pairwise_line_tokensFrom _ _, fun r hr => ?_, fun text offset => ?_⟩
  · rw [tokenize, hsplit, List.append_assoc, List.cons_append] at he
    obtain ⟨⟨line', hlater⟩, hrecords⟩ :=
      (segmentation_segments source.toList).last_of_isEmptyChar he ht options.maxFractionDigits
    refine ⟨?_, hrecords⟩
    have hlength := congrArg List.length hlater
    rw [List.length_append] at hlength
    exact List.length_eq_zero_iff.mp (Nat.add_right_cancel hlength)
  · obtain ⟨f, hf, rfl⟩ := List.mem_map.mp hr
    exact not_prefix_invalidExponent hf
  · exact matchesExponent_of_longestMatch

/-- A text that ends inside an escape. -/
example : tokenize "1\n'\\" = [⟨.number, "1", 1⟩, ⟨.char, "", 2⟩, ⟨.endOfInput, "", 2⟩] ∧
    lexicalFindings 5 "1\n'\\" = [⟨2, .unclosedCharacter⟩] := by decide +kernel

end BlockLang
