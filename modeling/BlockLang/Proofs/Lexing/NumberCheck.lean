import BlockLang.Proofs.Lexing.Numeral

/-! # The checks on any text as a number

The two checks on number literals, told for every text and every limit, also for texts that no
number literal has.

* `AfterPoint`: what stands after the first point, up to the next marker. The scan for the fraction
  finds it (`fraction?_eq_some_iff`), and `ExceedsLimit` compares its length with the limit.
* `LacksExponent`: there is a marker, but no way to split the text at a marker into a line before it
  and signed digits behind it. A text may have several markers, and the search has to find the one
  that fits, if one does (`hasInvalidExponent_iff`).

`numberProblems` is these two (`records_of_number`). -/

namespace BlockLang

variable {limit : Int} {text piece : List Char}

/-! ### The fraction -/

/-- What stands after the first point of a text, up to the next marker or to the end. -/
def AfterPoint (text piece : List Char) : Prop :=
  ∃ before rest, text = before ++ '.' :: (piece ++ rest) ∧ '.' ∉ before ∧
    (∀ c ∈ piece, c ∉ ['E', 'e']) ∧ ∀ c ∈ rest.head?, c ∈ ['E', 'e']

/-- The text after the first point, up to the next marker, is longer than the limit. -/
def ExceedsLimit (limit : Int) (text : List Char) : Prop :=
  ∃ piece, AfterPoint text piece ∧ limit < piece.length

theorem not_isExponentMarker_iff {c : Char} : (!isExponentMarker c) = true ↔ c ∉ ['E', 'e'] := by
  rw [Bool.not_eq_true', ← Bool.not_eq_true, isExponentMarker_iff]

/-- **The scan for the fraction finds what stands after the point.** -/
theorem fraction?_eq_some_iff : fraction? text = some piece ↔ AfterPoint text piece := by
  constructor
  · intro h
    have hpoint : '.' ∈ text := by
      by_contra hnone
      rw [fraction?_of_notMem hnone] at h
      cases h
    obtain ⟨before, after, rfl, hbefore⟩ := List.eq_append_cons_of_mem hpoint
    rw [fraction?_append hbefore] at h
    obtain rfl := Option.some.inj h
    refine ⟨before, after.dropWhile fun c => !isExponentMarker c, ?_, hbefore, fun c hc => ?_,
      fun c hc => ?_⟩
    · rw [List.takeWhile_append_dropWhile]
    · have hkept := List.mem_takeWhile_imp (p := fun c => !isExponentMarker c) hc
      exact not_isExponentMarker_iff.mp hkept
    · have hstop := List.head?_dropWhile_not (fun c => !isExponentMarker c) after
      rw [Option.mem_def.mp hc] at hstop
      exact isExponentMarker_iff.mp (by simpa using hstop)
  · rintro ⟨before, rest, rfl, hbefore, hpiece, hrest⟩
    have hall : ∀ c ∈ piece, (!isExponentMarker c) = true := fun c hc =>
      not_isExponentMarker_iff.mpr (hpiece c hc)
    have hstop : ∀ c ∈ rest.head?, (!isExponentMarker c) = false := by
      intro c hc
      rw [isExponentMarker_iff.mpr (hrest c hc)]
      rfl
    rw [fraction?_append hbefore, takeWhile_append_of_stop hall hstop]

theorem fractionExceeds_iff : fractionExceeds limit text = true ↔ ExceedsLimit limit text := by
  unfold fractionExceeds ExceedsLimit
  rcases h : fraction? text with _ | found
  · refine iff_of_false Bool.false_ne_true ?_
    rintro ⟨piece, hpiece, -⟩
    rw [fraction?_eq_some_iff.mpr hpiece] at h
    cases h
  · have hfound := fraction?_eq_some_iff.mp h
    constructor
    · intro hlong
      exact ⟨found, hfound, of_decide_eq_true hlong⟩
    · rintro ⟨piece, hpiece, hlong⟩
      rw [fraction?_eq_some_iff.mpr hpiece] at h
      obtain rfl := Option.some.inj h
      exact decide_eq_true hlong

instance (limit : Int) (text : List Char) : Decidable (ExceedsLimit limit text) :=
  decidable_of_iff _ fractionExceeds_iff

/-! ### The exponent -/

/-- A text has a marker, but does not match the pattern of an exponent. -/
def LacksExponent (text : List Char) : Prop :=
  (∃ c ∈ text, c ∈ ['E', 'e']) ∧ ¬ MatchesExponent text

/-- **The exponent is at fault iff no split of the text has the pattern.** -/
theorem hasInvalidExponent_iff : hasInvalidExponent text = true ↔ LacksExponent text := by
  unfold hasInvalidExponent LacksExponent
  rw [Bool.and_eq_true, Bool.not_eq_true', ← Bool.not_eq_true, endsInExponent_iff,
    List.any_eq_true]
  simp only [isExponentMarker_iff]

instance (text : List Char) : Decidable (LacksExponent text) :=
  decidable_of_iff _ hasInvalidExponent_iff

/-! ### Both checks -/

theorem numberProblems_eq (limit : Int) (lexeme : String) : numberProblems limit lexeme =
    (if ExceedsLimit limit lexeme.toList then [.fractionTooLong limit lexeme] else []) ++
      (if LacksExponent lexeme.toList then [.invalidExponent lexeme] else []) := by
  unfold numberProblems
  congr 1
  · exact if_congr fractionExceeds_iff rfl rfl
  · exact if_congr hasInvalidExponent_iff rfl rfl

/-- **What is reported on a text as a number**, for every text and every limit: that its fraction is
too long, if what stands after its first point up to the next marker is longer than the limit; and
after that its exponent, if it has a marker but is not a line, a marker, perhaps a sign, and one or
more decimal digits of any script. Nothing else is reported. -/
theorem records_of_number (limit line : Int) (lexeme : String) :
    ((numberProblems limit lexeme).map fun p => (Finding.mk line p).record) =
      (if ExceedsLimit limit lexeme.toList then
        [⟨.lexical, some line,
          "Decimal exceeds " ++ toString limit ++ " places: " ++ lexeme⟩] else []) ++
      (if LacksExponent lexeme.toList then
        [⟨.lexical, some line, "Invalid exponent: " ++ lexeme⟩] else []) := by
  rw [numberProblems_eq, List.map_append]
  congr 1
  · split <;> rfl
  · split <;> rfl

/-- A marker before the point, a second point, and digits that are not the ASCII ones: the last
marker fits. A line feed before it spoils the pattern. -/
example : numberProblems 1 "Ee.1.2e-٣" = [.fractionTooLong 1 "Ee.1.2e-٣"] ∧
    numberProblems 1 "E1\n.2E5" = [.invalidExponent "E1\n.2E5"] := by decide +kernel

end BlockLang
