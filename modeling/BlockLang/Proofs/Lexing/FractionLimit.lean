import BlockLang.Proofs.Checking.Mentions
import BlockLang.Proofs.Lexing.Diagnostics
import BlockLang.Proofs.Lexing.RoundTrip
import Mathlib.Data.List.Basic

/-! # The limit on fractions

The limit on the digits of a fraction matters to the diagnostics on long fractions, and to nothing
else.

* `Problem.isLongFraction`, `Record.tellsLongFraction`: the problem, and its records by their
  opening words. No other record starts with these.
* `filter_other_findingsFrom`: all other findings on some segments are the same under every limit.
* `Segmentation.filter_longFraction`: the findings on long fractions are those on the tokens whose
  fraction is longer than the limit. There are fewer of these under a higher limit. -/

namespace BlockLang

/-- Whether a problem is that of a long fraction. -/
def Problem.isLongFraction : Problem → Bool
  | fractionTooLong _ _ => true
  | _ => false

/-- Whether a record starts with the words on a long fraction. -/
def Record.tellsLongFraction (r : Record) : Bool :=
  "Decimal exceeds ".toList.isPrefixOf r.message.toList

/-! ### Records on long fractions -/

namespace Problem

theorem isLongFraction_of_opening {p : Problem} (h : p.opening = "Decimal exceeds ") :
    p.isLongFraction = true := by
  revert h
  cases p with
  | fractionTooLong _ _ => exact fun _ => rfl
  | missingAssign form _ | missingSemicolon form _ => cases form <;> simp [opening]
  | _ => simp [opening]

theorem prefix_message_iff {p : Problem} :
    "Decimal exceeds ".toList <+: p.message.toList ↔ p.isLongFraction = true := by
  constructor
  · intro h
    exact isLongFraction_of_opening ((opening_prefix_iff (by decide)).mp h)
  · intro h
    cases p with
    | fractionTooLong limit lexeme => exact (fractionTooLong limit lexeme).opening_prefix_message
    | _ => cases h

end Problem

theorem Finding.tellsLongFraction_record (f : Finding) :
    f.record.tellsLongFraction = f.problem.isLongFraction := by
  rw [Bool.eq_iff_iff, ← Problem.prefix_message_iff]
  exact List.isPrefixOf_iff_prefix

/-! ### All other findings -/

theorem Segment.filter_other_problems (s : Segment) (limit limit' : Int) :
    (s.problems limit).filter (!·.isLongFraction) =
      (s.problems limit').filter (!·.isLongFraction) := by
  obtain ⟨shape, text⟩ := s
  cases shape with
  | number =>
    have hother : ∀ limit, (numberProblems limit (String.ofList text)).filter (!·.isLongFraction) =
        if hasInvalidExponent text then [.invalidExponent (String.ofList text)] else [] := by
      intro limit
      rw [numberProblems, List.filter_append, String.toList_ofList]
      by_cases hf : fractionExceeds limit text = true <;>
        by_cases he : hasInvalidExponent text = true <;> simp [hf, he, Problem.isLongFraction]
    exact (hother limit).trans (hother limit').symm
  | blockComment closed | string _ closed | char _ closed => cases closed <;> rfl
  | _ => rfl

/-- **The other findings do not depend on the limit.** -/
theorem filter_other_findingsFrom (limit limit' : Int) : ∀ (segs : List Segment) (line : Int),
    (findingsFrom limit line segs).filter (!·.problem.isLongFraction) =
      (findingsFrom limit' line segs).filter (!·.problem.isLongFraction)
  | [], _ => rfl
  | s :: segs, line => by
    have hhead : ∀ limit, ((s.problems limit).map (Finding.mk line)).filter
        (!·.problem.isLongFraction) =
        ((s.problems limit).filter (!·.isLongFraction)).map (Finding.mk line) :=
      fun _ => List.filter_map
    rw [findingsFrom, findingsFrom, List.filter_append, List.filter_append, hhead, hhead,
      s.filter_other_problems limit limit', filter_other_findingsFrom limit limit' segs]

/-! ### Findings on long fractions -/

theorem Token.HasLongFraction.anti {limit limit' : Int} {t : Token} (hle : limit ≤ limit')
    (h : t.HasLongFraction limit') : t.HasLongFraction limit := by
  obtain ⟨hk, digits, hd, hne, hlong⟩ := h
  exact ⟨hk, digits, hd, hne, by omega⟩

/-- **The long fraction of a segment** is that of the token that the segment is. -/
theorem Segment.Heads.filter_longFraction {s : Segment} {rest : List Char} (h : s.Heads rest)
    (limit line : Int) :
    ((s.problems limit).map (Finding.mk line)).filter (·.problem.isLongFraction) =
      longFractions limit (s.token? line).toList := by
  obtain ⟨r, -, ht⟩ := h
  cases ht with
  | @number lexeme _ hl =>
    obtain ⟨digits, hd⟩ := hl.mem
    have htoken : (Segment.token? line ⟨.number, lexeme⟩).toList =
        [⟨.number, String.ofList lexeme, line⟩] := rfl
    rw [problems_number limit hd, htoken]
    by_cases hlong : digits ≠ [] ∧ limit < digits.length
    · have ht := (Token.hasLongFraction_iff hd limit line).mpr hlong
      rw [if_pos hlong, longFractions_of_hasLongFraction ht]
      rfl
    · have ht := mt (Token.hasLongFraction_iff hd limit line).mp hlong
      rw [if_neg hlong, longFractions_of_not_hasLongFraction ht]
      rfl
  | word =>
    have hkind : ∀ l : String, ¬ Token.HasLongFraction limit ⟨wordKind l, l, line⟩ := by
      rintro l ⟨hk, -⟩
      unfold wordKind at hk
      split at hk <;> cases hk
    exact (longFractions_of_not_hasLongFraction (hkind _)).symm
  | blank | lineComment | blockComment | openComment | invalid =>
    exact longFractions_nil.symm
  | _ => exact (longFractions_of_not_hasLongFraction fun hl => by cases hl.1).symm

/-- **The findings on long fractions are those on the tokens.** -/
theorem Segmentation.filter_longFraction {text : List Char} {segs : List Segment}
    (h : Segmentation text segs) (limit : Int) : ∀ line,
    (findingsFrom limit line segs).filter (·.problem.isLongFraction) =
      longFractions limit (tokensFrom line segs) := by
  induction h with
  | nil => exact fun line => (longFractions_endOfInput limit line).symm
  | cons hs _ ih =>
    intro line
    rw [findingsFrom, tokensFrom, List.filter_append, hs.filter_longFraction, ih,
      longFractions_append]

/-! ### Programs -/

section Programs

variable (options options' : Options) (source filename : String)

theorem filter_semantic_records :
    (check options source filename).records.filter (·.kind = .semantic) =
      (checkStatements source).findings.map Finding.record := by
  have hlexical : ∀ f ∈ lexicalFindings options.maxFractionDigits source,
      f.record.kind = .lexical := fun f hf => by
    obtain ⟨-, s, -, hp⟩ := exists_segment_of_mem hf
    exact s.kind_of_mem_problems hp
  have hsemantic : ∀ f ∈ (checkStatements source).findings, f.record.kind = .semantic :=
    fun f hf => (concerns_check hf).kind
  rw [Outcome.records, check, List.map_append, List.filter_append,
    List.filter_eq_nil_iff.mpr, List.filter_eq_self.mpr, List.nil_append]
  · intro r hr
    obtain ⟨f, hf, rfl⟩ := List.mem_map.mp hr
    exact decide_eq_true (hsemantic f hf)
  · intro r hr
    obtain ⟨f, hf, rfl⟩ := List.mem_map.mp hr
    rw [hlexical f hf]
    decide

theorem filter_other_records :
    (check options source filename).records.filter (!·.tellsLongFraction) =
      (check options' source filename).records.filter (!·.tellsLongFraction) := by
  have hfindings : ∀ fs : List Finding, (fs.map Finding.record).filter (!·.tellsLongFraction) =
      (fs.filter (!·.problem.isLongFraction)).map Finding.record := by
    intro fs
    simp only [List.filter_map, Function.comp_def, Finding.tellsLongFraction_record]
  rw [Outcome.records, Outcome.records, hfindings, hfindings, check, check, List.filter_append,
    List.filter_append, lexicalFindings, lexicalFindings,
    filter_other_findingsFrom options.maxFractionDigits options'.maxFractionDigits]

theorem filter_longFraction_records :
    (check options source filename).records.filter Record.tellsLongFraction =
      (longFractions options.maxFractionDigits (tokenize source)).map Finding.record := by
  have hsemantic : (checkStatements source).findings.filter (·.problem.isLongFraction) = [] := by
    rw [List.filter_eq_nil_iff]
    rintro ⟨line, p⟩ hf
    have hk := (concerns_check hf).kind
    cases p with
    | fractionTooLong => cases hk
    | _ => exact Bool.false_ne_true
  have hlexical := (segmentation_segments source.toList).filter_longFraction
    options.maxFractionDigits 1
  rw [Outcome.records, List.filter_map]
  simp only [Function.comp_def, Finding.tellsLongFraction_record]
  rw [check, List.filter_append, hsemantic, List.append_nil, lexicalFindings, hlexical, tokenize]

end Programs

open Classical in
/-- **The limit on fractions matters to the diagnostics on long fractions only.** Two runs on a
program under a lower and a higher limit give the same tokens, the same symbols and the same
diagnostics in the same order, but for those on long fractions. These are on the numbers whose
fraction is longer than the limit, in order, and the numbers that are reported under the higher
limit are among those that are reported under the lower one. -/
theorem check_of_limits {options options' : Options}
    (h : options.maxFractionDigits ≤ options'.maxFractionDigits) (source filename : String) :
    (check options source filename).tokens = (check options' source filename).tokens ∧
    (check options source filename).symbols = (check options' source filename).symbols ∧
    (check options source filename).records.filter (·.kind = .semantic) =
      (check options' source filename).records.filter (·.kind = .semantic) ∧
    (check options source filename).records.filter
        (fun r => r.kind = .lexical ∧ ¬ r.tellsLongFraction) =
      (check options' source filename).records.filter
        (fun r => r.kind = .lexical ∧ ¬ r.tellsLongFraction) ∧
    (∀ o ∈ [options, options'], (check o source filename).records.filter Record.tellsLongFraction =
      (longFractions o.maxFractionDigits (tokenize source)).map Finding.record) ∧
    ((tokenize source).filter (Token.HasLongFraction options'.maxFractionDigits)).Sublist
      ((tokenize source).filter (Token.HasLongFraction options.maxFractionDigits)) := by
  refine ⟨rfl, rfl, ?_, ?_, fun o _ => filter_longFraction_records o source filename, ?_⟩
  · rw [filter_semantic_records, filter_semantic_records]
  -- the lexical ones among all the others
  · have hsplit : ∀ rs : List Record,
        rs.filter (fun r => r.kind = .lexical ∧ ¬ r.tellsLongFraction) =
          (rs.filter (!·.tellsLongFraction)).filter (·.kind = .lexical) := by
      intro rs
      rw [List.filter_filter]
      exact List.filter_congr fun r _ => by simp
    rw [hsplit, hsplit, filter_other_records options options']
  · refine List.monotone_filter_right _ fun t ht => ?_
    rw [decide_eq_true_eq] at ht ⊢
    exact ht.anti h

/-- A negative limit, under which every fraction is too long, and the limit of two digits. -/
theorem check_of_limits_of_negative :
    (-1 : Int) ≤ 2 ∧
    (check ⟨-1, "utf-8"⟩ "1.25 @ 2.5E3\n7 x = 3.125" "").records.filter
        (fun r => r.kind = .lexical ∧ ¬ r.tellsLongFraction) =
      [⟨.lexical, some 1, "Invalid character: '@'"⟩] ∧
    (check ⟨-1, "utf-8"⟩ "1.25 @ 2.5E3\n7 x = 3.125" "").records.filter (·.kind = .semantic) =
      [⟨.semantic, some 2, "Variable 'x' is not declared."⟩,
       ⟨.semantic, some 2, "Missing semicolon in assignment for variable x"⟩] ∧
    (longFractions (-1) (tokenize "1.25 @ 2.5E3\n7 x = 3.125")).map Finding.record =
      [⟨.lexical, some 1, "Decimal exceeds -1 places: 1.25"⟩,
       ⟨.lexical, some 1, "Decimal exceeds -1 places: 2.5E3"⟩,
       ⟨.lexical, some 2, "Decimal exceeds -1 places: 3.125"⟩] ∧
    (longFractions 2 (tokenize "1.25 @ 2.5E3\n7 x = 3.125")).map Finding.record =
      [⟨.lexical, some 2, "Decimal exceeds 2 places: 3.125"⟩] := by
  have hle : Options.maxFractionDigits ⟨-1, "utf-8"⟩ ≤ Options.maxFractionDigits ⟨2, "utf-8"⟩ := by
    decide
  obtain ⟨-, -, hsemantic, hlexical, hlong, -⟩ :=
    check_of_limits hle "1.25 @ 2.5E3\n7 x = 3.125" ""
  refine ⟨hle, ?_, ?_, ?_, ?_⟩
  · rw [hlexical]; decide +kernel
  · rw [hsemantic]; decide +kernel
  · rw [← hlong ⟨-1, "utf-8"⟩ (by simp)]; decide +kernel
  · rw [← hlong ⟨2, "utf-8"⟩ (by simp)]; decide +kernel

end BlockLang
