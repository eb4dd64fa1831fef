import BlockLang.NumberLiteral
import BlockLang.Proofs.Automaton.TokenClass
import BlockLang.Proofs.Text.Splitting
import Mathlib.Data.List.TakeWhile

/-! # The checks on numerals

On the numerals of the language the two checks on number literals are simple. The fraction that is
measured is the one of the numeral (`fraction?_of_hasFraction`), and the exponent is never at fault
(`hasInvalidExponent_of_isNumeral`): a numeral with a marker matches the pattern of an exponent
(`MatchesExponent`). So a numeral has at most one problem (`numberProblems_of_hasFraction`). -/

namespace BlockLang

/-! ### Characters of numerals -/

theorem isExponentMarker_of_mem {c : Char} (h : c ∈ ['E', 'e']) : isExponentMarker c = true := by
  rw [List.mem_cons, List.mem_singleton] at h
  rcases h with rfl | rfl <;> rfl

theorem isExponentMarker_of_isDigit {c : Char} (h : c.isDigit = true) :
    isExponentMarker c = false := by
  rw [isExponentMarker, decide_eq_false_iff_not]
  rintro (rfl | rfl) <;> cases h

theorem isDecimalDigit_of_isDigit {c : Char} (h : c.isDigit = true) :
    Text.isDecimalDigit c = true := by
  obtain ⟨h1, h2⟩ := Automaton.isDigit_iff.mp h
  rw [Text.isDecimalDigit, Text.digitValue?, Option.isSome_map, List.find?_isSome]
  exact ⟨0x30, by decide, by simp [h1, h2]⟩

theorem IsSignedDigitRun.chars {text : List Char} (h : IsSignedDigitRun text) :
    ∀ c ∈ text, c.isDigit = true ∨ c ∈ ['+', '-'] := by
  rintro c hc
  rcases h with h | ⟨d, hd, digits, rfl, h⟩
  · exact Or.inl (h.2 c hc)
  · rcases List.mem_cons.mp hc with rfl | hc
    · exact Or.inr hd
    · exact Or.inl (h.2 c hc)

theorem IsExponent.chars {text : List Char} (h : IsExponent text) :
    ∀ c ∈ text, c.isDigit = true ∨ c ∈ ['E', 'e', '+', '-'] := by
  rintro c hc
  rcases h with rfl | ⟨d, hd, digits, rfl, h⟩
  · cases hc
  · rcases List.mem_cons.mp hc with rfl | hc
    · exact Or.inr (List.mem_append_left ['+', '-'] hd)
    · exact (h.chars c hc).imp_right (List.mem_append_right ['E', 'e'])

theorem IsNumeral.chars {text : List Char} (h : IsNumeral text) :
    ∀ c ∈ text, c.isDigit = true ∨ c ∈ ['.', 'E', 'e', '+', '-'] := by
  rintro c hc
  obtain ⟨digits, whole, point, exponent, rfl, hw, hp, hx⟩ := h
  rcases List.mem_append.mp hc with hc | hc
  · exact Or.inl (hw.2 c hc)
  rcases List.mem_append.mp hc with hc | hc
  · rcases hp with ⟨rfl, -⟩ | ⟨rfl, hd⟩
    · cases hc
    · rcases List.mem_cons.mp hc with rfl | hc
      · exact Or.inr List.mem_cons_self
      · exact Or.inl (hd.2 c hc)
  · exact (hx.chars c hc).imp_right (List.mem_cons_of_mem '.')

theorem IsNumeral.notMem {text : List Char} (h : IsNumeral text) {c : Char}
    (hd : c.isDigit = false) (hc : c ∉ ['.', 'E', 'e', '+', '-']) : c ∉ text := by
  intro hm
  rcases h.chars c hm with h | h
  · rw [hd] at h; cases h
  · exact hc h

theorem IsExponent.point_notMem {text : List Char} (h : IsExponent text) : '.' ∉ text := by
  intro hm
  rcases h.chars '.' hm with h | h
  · cases h
  · revert h; decide

theorem IsDigitRun.notMem {text : List Char} (h : IsDigitRun text) {c : Char}
    (hd : c.isDigit = false) : c ∉ text := by
  intro hm
  rw [h.2 c hm] at hd
  cases hd

/-! ### The fraction -/

theorem fraction?_of_notMem {text : List Char} (h : '.' ∉ text) : fraction? text = none := by
  have hd : text.dropWhile (· ≠ '.') = [] :=
    List.dropWhile_eq_nil_iff.mpr (decide_ne_of_notMem h)
  rw [fraction?, hd]

theorem fraction?_append {before after : List Char} (h : '.' ∉ before) :
    fraction? (before ++ '.' :: after) = some (after.takeWhile fun c => !isExponentMarker c) := by
  have hd : (before ++ '.' :: after).dropWhile (· ≠ '.') = '.' :: after :=
    dropWhile_append_of_stop (decide_ne_of_notMem h) fun c hc => by cases hc; rfl
  rw [fraction?, hd]

theorem IsExponent.takeWhile_eq_nil {text : List Char} (h : IsExponent text) :
    (text.takeWhile fun c => !isExponentMarker c) = [] := by
  rcases h with rfl | ⟨c, hc, digits, rfl, -⟩
  · rfl
  · rw [List.takeWhile_cons, isExponentMarker_of_mem hc]; rfl

/-- **The fraction that is measured is the one of the numeral.** -/
theorem fraction?_of_hasFraction {text digits : List Char} (h : HasFraction text digits) :
    fraction? text = if digits = [] then none else some digits := by
  obtain ⟨whole, point, exponent, rfl, hw, hp, hx⟩ := h
  rcases hp with ⟨rfl, rfl⟩ | ⟨rfl, hd⟩
  · refine fraction?_of_notMem fun hm => ?_
    rcases List.mem_append.mp hm with hm | hm
    · exact hw.notMem rfl hm
    · exact hx.point_notMem hm
  · rw [if_neg hd.1, List.cons_append, fraction?_append (hw.notMem rfl),
      List.takeWhile_append_of_pos fun c hc => by rw [isExponentMarker_of_isDigit (hd.2 c hc)]; rfl,
      hx.takeWhile_eq_nil, List.append_nil]

theorem HasFraction.unique {text digits digits' : List Char} (h : HasFraction text digits)
    (h' : HasFraction text digits') : digits = digits' := by
  have he := (fraction?_of_hasFraction h).symm.trans (fraction?_of_hasFraction h')
  by_cases hd : digits = []
  · by_cases hd' : digits' = []
    · rw [hd, hd']
    · rw [if_pos hd, if_neg hd'] at he; cases he
  · by_cases hd' : digits' = []
    · rw [if_neg hd, if_pos hd'] at he; cases he
    · rw [if_neg hd, if_neg hd'] at he; exact Option.some.inj he

/-! ### The pattern of an exponent -/

/-- **The pattern of an exponent**, for any text: characters on one line, a marker, perhaps a sign,
and one or more decimal digits. -/
def MatchesExponent (text : List Char) : Prop :=
  ∃ before marker sign digits, text = before ++ marker :: (sign ++ digits) ∧ '\n' ∉ before ∧
    marker ∈ ['E', 'e'] ∧ sign ∈ [[], ['+'], ['-']] ∧ digits ≠ [] ∧
    ∀ c ∈ digits, Text.isDecimalDigit c = true

theorem isExponentMarker_iff {c : Char} : isExponentMarker c = true ↔ c ∈ ['E', 'e'] := by
  simp [isExponentMarker]

theorem isDigits_iff {text : List Char} :
    isDigits text = true ↔ text ≠ [] ∧ ∀ c ∈ text, Text.isDecimalDigit c = true := by
  rw [isDigits, Bool.and_eq_true, List.all_eq_true, Bool.not_eq_true', List.isEmpty_eq_false_iff]

theorem isSignedDigits_iff {text : List Char} : isSignedDigits text = true ↔
    ∃ sign digits, text = sign ++ digits ∧ sign ∈ [[], ['+'], ['-']] ∧ digits ≠ [] ∧
      ∀ c ∈ digits, Text.isDecimalDigit c = true := by
  rcases text with _ | ⟨c, cs⟩
  · refine iff_of_false Bool.false_ne_true ?_
    rintro ⟨sign, digits, he, -, hne, -⟩
    exact hne (List.append_eq_nil_iff.mp he.symm).2
  rw [isSignedDigits]
  by_cases hc : c = '+' ∨ c = '-'
  · -- a sign is no digit, so the digits start after it
    have hdigit : Text.isDecimalDigit c = false := by rcases hc with rfl | rfl <;> decide
    rw [if_pos hc, isDigits_iff]
    constructor
    · rintro ⟨hne, hall⟩
      exact ⟨[c], cs, rfl, by simpa using hc, hne, hall⟩
    · rintro ⟨sign, digits, he, hs, hne, hall⟩
      simp only [List.mem_cons, List.not_mem_nil, or_false] at hs
      rcases hs with rfl | rfl | rfl
      · obtain rfl : c :: cs = digits := he
        rw [hall c List.mem_cons_self] at hdigit
        cases hdigit
      · obtain ⟨-, rfl⟩ := List.cons.inj he
        exact ⟨hne, hall⟩
      · obtain ⟨-, rfl⟩ := List.cons.inj he
        exact ⟨hne, hall⟩
  · rw [if_neg hc, isDigits_iff]
    constructor
    · rintro ⟨hne, hall⟩
      exact ⟨[], c :: cs, rfl, List.mem_cons_self, hne, hall⟩
    · rintro ⟨sign, digits, he, hs, hne, hall⟩
      simp only [List.mem_cons, List.not_mem_nil, or_false] at hs
      rcases hs with rfl | rfl | rfl
      · rw [he]
        exact ⟨hne, hall⟩
      · exact absurd (Or.inl (List.cons.inj he).1) hc
      · exact absurd (Or.inr (List.cons.inj he).1) hc

/-- **A text ends in an exponent iff it matches the pattern.** -/
theorem endsInExponent_iff {text : List Char} :
    endsInExponent text = true ↔ MatchesExponent text := by
  induction text with
  | nil =>
    refine iff_of_false Bool.false_ne_true ?_
    rintro ⟨before, marker, sign, digits, he, -⟩
    exact absurd he.symm (by simp)
  | cons c cs ih =>
    rw [endsInExponent, Bool.or_eq_true, Bool.and_eq_true, Bool.and_eq_true, ih, bne_iff_ne,
      isExponentMarker_iff, isSignedDigits_iff]
    constructor
    · rintro (⟨hm, sign, digits, rfl, hd⟩ | ⟨hc, before, marker, sign, digits, rfl, hline, hd⟩)
      · exact ⟨[], c, sign, digits, rfl, List.not_mem_nil, hm, hd⟩
      · exact ⟨c :: before, marker, sign, digits, rfl,
          List.not_mem_cons_of_ne_of_not_mem (Ne.symm hc) hline, hd⟩
    · rintro ⟨_ | ⟨d, before⟩, marker, sign, digits, he, hline, hm, hd⟩
      · obtain ⟨rfl, rfl⟩ := List.cons.inj he
        exact Or.inl ⟨hm, sign, digits, rfl, hd⟩
      · obtain ⟨rfl, rfl⟩ := List.cons.inj he
        rw [List.mem_cons, not_or] at hline
        exact Or.inr ⟨Ne.symm hline.1, before, marker, sign, digits, rfl, hline.2, hm, hd⟩

/-! ### The exponent -/

theorem IsSignedDigitRun.exists_sign {text : List Char} (h : IsSignedDigitRun text) :
    ∃ sign digits, text = sign ++ digits ∧ sign ∈ [[], ['+'], ['-']] ∧ digits ≠ [] ∧
      ∀ c ∈ digits, Text.isDecimalDigit c = true := by
  rcases h with h | ⟨c, hc, digits, rfl, h⟩
  · exact ⟨[], text, rfl, List.mem_cons_self, h.1, fun c hc => isDecimalDigit_of_isDigit (h.2 c hc)⟩
  · exact ⟨[c], digits, rfl, by simpa using hc, h.1,
      fun c hc => isDecimalDigit_of_isDigit (h.2 c hc)⟩

theorem IsNumeral.matchesExponent {text : List Char} (h : IsNumeral text)
    (hm : text.any isExponentMarker = true) : MatchesExponent text := by
  have hline : '\n' ∉ text := h.notMem rfl (by decide)
  obtain ⟨c, hc, hmarker⟩ := List.any_eq_true.mp hm
  obtain ⟨digits, whole, point, exponent, rfl, hw, hp, hx⟩ := h
  rw [← List.append_assoc] at hline hc ⊢
  have hbefore : '\n' ∉ whole ++ point := fun h => hline (List.mem_append_left _ h)
  rcases hx with rfl | ⟨marker, hmark, ds, rfl, hs⟩
  · -- without an exponent there is no marker
    have hdigit : ∀ d : Char, d.isDigit = true → d ≠ c := by
      rintro d hd rfl
      rw [isExponentMarker_of_isDigit hd] at hmarker
      cases hmarker
    rw [List.append_nil] at hc
    rcases List.mem_append.mp hc with hc | hc
    · exact absurd rfl (hdigit c (hw.2 c hc))
    · rcases hp with ⟨rfl, -⟩ | ⟨rfl, hd⟩
      · cases hc
      · rcases List.mem_cons.mp hc with rfl | hc
        · cases hmarker
        · exact absurd rfl (hdigit c (hd.2 c hc))
  · obtain ⟨sign, digits, rfl, hd⟩ := hs.exists_sign
    exact ⟨whole ++ point, marker, sign, digits, rfl, hbefore, hmark, hd⟩

theorem hasInvalidExponent_of_isNumeral {text : List Char} (h : IsNumeral text) :
    hasInvalidExponent text = false := by
  rw [hasInvalidExponent, Bool.and_eq_false_imp, Bool.not_eq_false']
  exact fun hm => endsInExponent_iff.mpr (h.matchesExponent hm)

/-! ### Both checks -/

/-- **A numeral has no problem but a long fraction.** -/
theorem numberProblems_of_hasFraction (limit : Int) {text digits : List Char}
    (h : HasFraction text digits) :
    numberProblems limit (String.ofList text) =
      if digits ≠ [] ∧ limit < digits.length then [.fractionTooLong limit (String.ofList text)]
      else [] := by
  rw [numberProblems, String.toList_ofList, hasInvalidExponent_of_isNumeral ⟨digits, h⟩,
    fractionExceeds, fraction?_of_hasFraction h]
  by_cases hd : digits = []
  · simp [hd]
  · simp [hd]

end BlockLang
