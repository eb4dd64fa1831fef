import BlockLang.Automaton.Lexical
import BlockLang.Proofs.Automaton.LongestMatch

/-! # The languages of the lexical automata

The three classes of tokens of variable length as languages, and the automata that accept them.

* `IsWord`: `[a-z]+`, the language of `identifier` (`matches_identifier_iff`).
* `IsOperator`: an operator sign, perhaps with `=` after it, the language of `operator`
  (`matches_operator_iff`).
* `IsNumeral`: `[0-9]+ ('.' [0-9]+)? ([Ee] [+-]? [0-9]+)?`, the language of `number`
  (`matches_number_iff`). `HasFraction` tells the digits of the fraction.

The language of `number` is read off state by state. Three of its states loop on digits, and what
leads on from there is a word of digits and then something that starts with no digit
(`reaches_iff_afterDigits`). -/

namespace BlockLang

/-! ### The classes -/

/-- One or more lower-case letters. -/
def IsWord (text : List Char) : Prop := text ≠ [] ∧ ∀ c ∈ text, c.isLower = true

/-- An operator sign, perhaps with `=` after it. -/
def IsOperator (text : List Char) : Prop :=
  ∃ c ∈ Automaton.operatorChars, text = [c] ∨ text = [c, '=']

/-- One or more digits. -/
def IsDigitRun (text : List Char) : Prop := text ≠ [] ∧ ∀ c ∈ text, c.isDigit = true

/-- One or more digits, perhaps after a sign. -/
def IsSignedDigitRun (text : List Char) : Prop :=
  IsDigitRun text ∨ ∃ c ∈ ['+', '-'], ∃ digits, text = c :: digits ∧ IsDigitRun digits

/-- An exponent with its marker, or nothing. -/
def IsExponent (text : List Char) : Prop :=
  text = [] ∨ ∃ c ∈ ['E', 'e'], ∃ digits, text = c :: digits ∧ IsSignedDigitRun digits

/-- A point and the digits after it, or nothing and no digits. -/
def IsFraction (text digits : List Char) : Prop :=
  (text = [] ∧ digits = []) ∨ (text = '.' :: digits ∧ IsDigitRun digits)

/-- A numeral, and the digits of its fraction. -/
def HasFraction (text digits : List Char) : Prop :=
  ∃ whole point exponent, text = whole ++ (point ++ exponent) ∧ IsDigitRun whole ∧
    IsFraction point digits ∧ IsExponent exponent

/-- A whole number, perhaps with a fraction, perhaps with an exponent. -/
def IsNumeral (text : List Char) : Prop := ∃ digits, HasFraction text digits

/-! ### Digits and what follows them -/

/-- Some digits, perhaps none, and then a text with a property. -/
def AfterDigits (P : List Char → Prop) (text : List Char) : Prop :=
  ∃ digits rest, text = digits ++ rest ∧ (∀ c ∈ digits, c.isDigit = true) ∧ P rest

theorem afterDigits_nil {P : List Char → Prop} : AfterDigits P [] ↔ P [] := by
  constructor
  · rintro ⟨digits, rest, he, -, hP⟩
    obtain ⟨rfl, rfl⟩ := List.append_eq_nil_iff.mp he.symm
    exact hP
  · intro hP; exact ⟨[], [], rfl, by simp, hP⟩

theorem afterDigits_cons_of_digit {P : List Char → Prop} {c : Char} {cs : List Char}
    (hc : c.isDigit = true) (hP : ¬ P (c :: cs)) :
    AfterDigits P (c :: cs) ↔ AfterDigits P cs := by
  constructor
  · rintro ⟨digits, rest, he, hd, hr⟩
    rcases digits with _ | ⟨d, digits⟩
    · rw [List.nil_append] at he; rw [← he] at hr; exact absurd hr hP
    · rw [List.cons_append, List.cons.injEq] at he
      exact ⟨digits, rest, he.2, fun x hx => hd x (List.mem_cons_of_mem _ hx), hr⟩
  · rintro ⟨digits, rest, rfl, hd, hr⟩
    refine ⟨c :: digits, rest, rfl, fun x hx => ?_, hr⟩
    rcases List.mem_cons.mp hx with rfl | hx
    · exact hc
    · exact hd x hx

theorem afterDigits_cons_of_not_digit {P : List Char → Prop} {c : Char} {cs : List Char}
    (hc : ¬ c.isDigit = true) : AfterDigits P (c :: cs) ↔ P (c :: cs) := by
  constructor
  · rintro ⟨digits, rest, he, hd, hr⟩
    rcases digits with _ | ⟨d, digits⟩
    · rw [List.nil_append] at he; rw [he]; exact hr
    · rw [List.cons_append, List.cons.injEq] at he
      exact absurd (he.1 ▸ hd d List.mem_cons_self) hc
  · intro hP; exact ⟨[], c :: cs, rfl, by simp, hP⟩

theorem digit_and_afterDigits_iff {P : List Char → Prop} {c : Char} {cs : List Char} :
    c.isDigit = true ∧ AfterDigits P cs ↔
      ∃ digits rest, c :: cs = digits ++ rest ∧ IsDigitRun digits ∧ P rest := by
  constructor
  · rintro ⟨hc, digits, rest, rfl, hd, hr⟩
    refine ⟨c :: digits, rest, rfl, ⟨List.cons_ne_nil _ _, fun x hx => ?_⟩, hr⟩
    rcases List.mem_cons.mp hx with rfl | hx
    · exact hc
    · exact hd x hx
  · rintro ⟨digits, rest, he, ⟨hne, hd⟩, hr⟩
    obtain ⟨d, digits, rfl⟩ := List.exists_cons_of_ne_nil hne
    rw [List.cons_append, List.cons.injEq] at he
    refine ⟨he.1 ▸ hd d List.mem_cons_self, digits, rest, he.2, fun x hx => ?_, hr⟩
    exact hd x (List.mem_cons_of_mem _ hx)

theorem isExponent_cons {c : Char} {cs : List Char} :
    IsExponent (c :: cs) ↔ c ∈ ['E', 'e'] ∧ IsSignedDigitRun cs := by
  constructor
  · rintro (h | ⟨d, hd, digits, he, hs⟩)
    · cases h
    · cases he; exact ⟨hd, hs⟩
  · rintro ⟨hc, hs⟩; exact Or.inr ⟨c, hc, cs, rfl, hs⟩

theorem not_mem_signs_of_digit {c : Char} (hc : c.isDigit = true) : c ∉ ['+', '-'] := by
  intro hm
  rw [List.mem_cons, List.mem_singleton] at hm
  rcases hm with rfl | rfl <;> cases hc

theorem not_isExponent_cons_of_digit {c : Char} {cs : List Char} (hc : c.isDigit = true) :
    ¬ IsExponent (c :: cs) := by
  rw [isExponent_cons]
  rintro ⟨hm, -⟩
  rw [List.mem_cons, List.mem_singleton] at hm
  rcases hm with rfl | rfl <;> cases hc

namespace Automaton

/-! ### Single steps -/

theorem step?_of_node {a : Automaton} {q : Nat} {node : Node} (h : a.nodes[q]? = some node)
    (c : Char) : a.step? q c = (Symbol.ofChar? c).bind node.next := by
  simp only [step?, h, bind, Option.bind_some]

/-- A test on symbols at the head of a transition, as the test on characters that it is. -/
theorem bind_ite {p : Symbol → Bool} {P : Char → Prop} [DecidablePred P] {c : Char}
    (hp : ∀ s, Symbol.ofChar? c = some s → (p s = true ↔ P c))
    (hn : Symbol.ofChar? c = none → ¬ P c) (q : Nat) (f : Symbol → Option Nat) :
    ((Symbol.ofChar? c).bind fun s => if p s then some q else f s) =
      if P c then some q else (Symbol.ofChar? c).bind f := by
  rcases h : Symbol.ofChar? c with _ | s
  · rw [if_neg (hn h)]; rfl
  · by_cases hP : P c
    · rw [if_pos hP]; exact if_pos ((hp s h).mpr hP)
    · rw [if_neg hP]; exact if_neg fun hs => hP ((hp s h).mp hs)

theorem bind_none (c : Char) : ((Symbol.ofChar? c).bind fun _ => (none : Option Nat)) = none := by
  cases Symbol.ofChar? c <;> rfl

theorem val_of_ofChar? {c : Char} {s : Symbol} (h : Symbol.ofChar? c = some s) :
    s.val = c.toNat := by
  unfold Symbol.ofChar? at h
  split at h
  · cases h; rfl
  · cases h

theorem le_toNat_of_ofChar? {c : Char} (h : Symbol.ofChar? c = none) : 128 ≤ c.toNat := by
  unfold Symbol.ofChar? at h
  split at h
  · cases h
  · omega

theorem isLower_iff {c : Char} : c.isLower = true ↔ 97 ≤ c.toNat ∧ c.toNat ≤ 122 := by
  show (decide (c.val ≥ 'a'.val) && decide (c.val ≤ 'z'.val)) = true ↔ _
  rw [Bool.and_eq_true, decide_eq_true_eq, decide_eq_true_eq, ge_iff_le, UInt32.le_iff_toNat_le,
    UInt32.le_iff_toNat_le]
  exact Iff.rfl

theorem isDigit_iff {c : Char} : c.isDigit = true ↔ 48 ≤ c.toNat ∧ c.toNat ≤ 57 := by
  show (decide (c.val ≥ '0'.val) && decide (c.val ≤ '9'.val)) = true ↔ _
  rw [Bool.and_eq_true, decide_eq_true_eq, decide_eq_true_eq, ge_iff_le, UInt32.le_iff_toNat_le,
    UInt32.le_iff_toNat_le]
  exact Iff.rfl

theorem bind_isLetter (c : Char) (q : Nat) (f : Symbol → Option Nat) :
    ((Symbol.ofChar? c).bind fun s => if isLetter s then some q else f s) =
      if c.isLower then some q else (Symbol.ofChar? c).bind f := by
  refine bind_ite (P := fun c => c.isLower = true) (fun s hs => ?_) (fun hn => ?_) q f
  · rw [isLower_iff, ← val_of_ofChar? hs]; simp [isLetter]
  · rw [isLower_iff]; have := le_toNat_of_ofChar? hn; omega

theorem bind_isDigit (c : Char) (q : Nat) (f : Symbol → Option Nat) :
    ((Symbol.ofChar? c).bind fun s => if isDigit s then some q else f s) =
      if c.isDigit then some q else (Symbol.ofChar? c).bind f := by
  refine bind_ite (P := fun c => c.isDigit = true) (fun s hs => ?_) (fun hn => ?_) q f
  · rw [isDigit_iff, ← val_of_ofChar? hs]; simp [isDigit]
  · rw [isDigit_iff]; have := le_toNat_of_ofChar? hn; omega

theorem bind_isOneOf {cs : List Char} (hcs : cs.all (·.toNat < 128) = true) (c : Char) (q : Nat)
    (f : Symbol → Option Nat) :
    ((Symbol.ofChar? c).bind fun s => if isOneOf cs s then some q else f s) =
      if c ∈ cs then some q else (Symbol.ofChar? c).bind f := by
  refine bind_ite (P := (· ∈ cs)) (fun s hs => ?_) (fun hn hc => ?_) q f
  · simp [isOneOf, val_of_ofChar? hs, Char.toNat_inj]
  · have hlt := of_decide_eq_true (List.all_eq_true.mp hcs c hc)
    have := le_toNat_of_ofChar? hn
    omega

/-! ### Words -/

theorem step?_identifier {q : Nat} (hq : q < 2) (c : Char) :
    identifier.step? q c = if c.isLower then some 1 else none := by
  have h : ∃ b, identifier.nodes[q]? = some ⟨b, fun s => if isLetter s then some 1 else none⟩ := by
    rcases q with _ | _ | q
    · exact ⟨_, rfl⟩
    · exact ⟨_, rfl⟩
    · omega
  obtain ⟨b, hb⟩ := h
  rw [step?_of_node hb, bind_isLetter, bind_none]

theorem reaches_identifier : ∀ text : List Char,
    identifier.Reaches 1 text ↔ ∀ c ∈ text, c.isLower = true
  | [] => by rw [reaches_nil]; exact iff_of_true rfl (by simp)
  | c :: cs => by
    by_cases hc : c.isLower = true
    · rw [reaches_cons_of_step (by rw [step?_identifier (by decide), if_pos hc]),
        reaches_identifier cs]
      simp [hc]
    · refine iff_of_false (not_reaches_cons ?_) fun h => hc (h c List.mem_cons_self)
      rw [step?_identifier (by decide), if_neg hc]

theorem matches_identifier_iff {text : List Char} : identifier.Matches text ↔ IsWord text := by
  unfold Matches IsWord
  refine and_congr_right fun hne => ?_
  obtain ⟨c, cs, rfl⟩ := List.exists_cons_of_ne_nil hne
  show identifier.Reaches 0 (c :: cs) ↔ _
  rw [reaches_cons, step?_identifier (by decide)]
  by_cases hc : c.isLower = true
  · rw [if_pos hc]
    simp [hc, reaches_identifier]
  · rw [if_neg hc]
    simp [hc]

/-! ### Operators -/

theorem step?_operator_start (c : Char) :
    operator.step? 0 c = if c ∈ operatorChars then some 1 else none := by
  rw [step?_of_node (q := 0) rfl, bind_isOneOf (by decide), bind_none]

theorem step?_operator_sign (c : Char) :
    operator.step? 1 c = if c ∈ ['='] then some 2 else none := by
  rw [step?_of_node (q := 1) rfl, bind_isOneOf (by decide), bind_none]

theorem reaches_operator_end {text : List Char} : operator.Reaches 2 text ↔ text = [] := by
  rcases text with _ | ⟨c, cs⟩
  · exact iff_of_true (reaches_nil.mpr rfl) rfl
  · refine iff_of_false (not_reaches_cons ?_) (List.cons_ne_nil _ _)
    rw [step?_of_node (q := 2) rfl, bind_none]

theorem reaches_operator_sign {text : List Char} :
    operator.Reaches 1 text ↔ text = [] ∨ text = ['='] := by
  rcases text with _ | ⟨c, cs⟩
  · exact iff_of_true (reaches_nil.mpr rfl) (Or.inl rfl)
  · rw [reaches_cons, step?_operator_sign]
    by_cases hc : c ∈ ['=']
    · rw [if_pos hc]
      rw [List.mem_singleton] at hc
      simp [hc, reaches_operator_end]
    · rw [if_neg hc]
      rw [List.mem_singleton] at hc
      simp [hc]

theorem matches_operator_iff {text : List Char} : operator.Matches text ↔ IsOperator text := by
  rcases text with _ | ⟨c, cs⟩
  · refine iff_of_false (fun h => h.1 rfl) ?_
    rintro ⟨d, -, h | h⟩ <;> cases h
  · unfold Matches
    show _ ∧ operator.Reaches 0 (c :: cs) ↔ _
    rw [reaches_cons, step?_operator_start]
    by_cases hc : c ∈ operatorChars
    · rw [if_pos hc]
      simp only [Option.some.injEq, exists_eq_left', reaches_operator_sign]
      constructor
      · rintro ⟨-, rfl | rfl⟩
        · exact ⟨c, hc, Or.inl rfl⟩
        · exact ⟨c, hc, Or.inr rfl⟩
      · rintro ⟨d, -, h | h⟩
        · cases h; exact ⟨List.cons_ne_nil _ _, Or.inl rfl⟩
        · cases h; exact ⟨List.cons_ne_nil _ _, Or.inr rfl⟩
    · rw [if_neg hc]
      refine iff_of_false (fun h => ?_) ?_
      · obtain ⟨q, hq, -⟩ := h.2; cases hq
      · rintro ⟨d, hd, h | h⟩ <;> (cases h; exact hc hd)

/-! ### Numerals

The states of `number`: `0` the start, `1` the whole part, `2` the point, `3` the fraction, `4` the
exponent marker, `5` its sign, `6` its digits. -/

theorem step?_number_start (c : Char) :
    number.step? 0 c = if c.isDigit then some 1 else none := by
  rw [step?_of_node (q := 0) rfl, bind_isDigit, bind_none]

theorem step?_number_whole (c : Char) :
    number.step? 1 c = if c.isDigit then some 1 else if c ∈ ['.'] then some 2
      else if c ∈ ['E', 'e'] then some 4 else none := by
  rw [step?_of_node (q := 1) rfl, bind_isDigit, bind_isOneOf (by decide), bind_isOneOf (by decide),
    bind_none]

theorem step?_number_point (c : Char) :
    number.step? 2 c = if c.isDigit then some 3 else none := by
  rw [step?_of_node (q := 2) rfl, bind_isDigit, bind_none]

theorem step?_number_fraction (c : Char) :
    number.step? 3 c = if c.isDigit then some 3 else if c ∈ ['E', 'e'] then some 4 else none := by
  rw [step?_of_node (q := 3) rfl, bind_isDigit, bind_isOneOf (by decide), bind_none]

theorem step?_number_marker (c : Char) :
    number.step? 4 c = if c.isDigit then some 6 else if c ∈ ['+', '-'] then some 5 else none := by
  rw [step?_of_node (q := 4) rfl, bind_isDigit, bind_isOneOf (by decide), bind_none]

theorem step?_number_sign (c : Char) :
    number.step? 5 c = if c.isDigit then some 6 else none := by
  rw [step?_of_node (q := 5) rfl, bind_isDigit, bind_none]

theorem step?_number_digits (c : Char) :
    number.step? 6 c = if c.isDigit then some 6 else none := by
  rw [step?_of_node (q := 6) rfl, bind_isDigit, bind_none]

/-- **A state that loops on digits**: what reaches from it is digits, and then what reaches from it
without a digit in front. -/
theorem reaches_iff_afterDigits {q : Nat} {P : List Char → Prop}
    (hloop : ∀ c, c.isDigit = true → number.step? q c = some q)
    (hnil : number.isAccepting q = true ↔ P [])
    (hdigit : ∀ c cs, c.isDigit = true → ¬ P (c :: cs))
    (hother : ∀ c cs, ¬ c.isDigit = true → (number.Reaches q (c :: cs) ↔ P (c :: cs))) :
    ∀ text, number.Reaches q text ↔ AfterDigits P text
  | [] => by rw [reaches_nil, hnil, afterDigits_nil]
  | c :: cs => by
    by_cases hc : c.isDigit = true
    · rw [reaches_cons_of_step (hloop c hc), afterDigits_cons_of_digit hc (hdigit c cs hc),
        reaches_iff_afterDigits hloop hnil hdigit hother cs]
    · rw [hother c cs hc, afterDigits_cons_of_not_digit hc]

/-- **A state that only digits lead on from**: what reaches from it is a run of digits, and then
what the next state asks for. -/
theorem reaches_iff_digitRun {q q' : Nat} {P : List Char → Prop}
    (hstep : ∀ c, number.step? q c = if c.isDigit then some q' else none)
    (hacc : number.isAccepting q = false) (hnext : ∀ t, number.Reaches q' t ↔ AfterDigits P t)
    (text : List Char) :
    number.Reaches q text ↔ ∃ digits rest, text = digits ++ rest ∧ IsDigitRun digits ∧ P rest := by
  rcases text with _ | ⟨c, cs⟩
  · rw [reaches_nil, hacc]
    refine iff_of_false (by simp) ?_
    rintro ⟨digits, rest, he, hd, -⟩
    exact hd.1 (List.append_eq_nil_iff.mp he.symm).1
  · rw [reaches_cons, hstep, ← digit_and_afterDigits_iff]
    by_cases hc : c.isDigit = true
    · simp [hc, hnext]
    · simp [hc]

theorem reaches_number_digits (text : List Char) :
    number.Reaches 6 text ↔ AfterDigits (· = []) text := by
  refine reaches_iff_afterDigits (q := 6) (P := (· = [])) (fun c hc => ?_) (iff_of_true rfl rfl)
    (fun c cs _ => ?_) (fun c cs hc => ?_) text
  · rw [step?_number_digits, if_pos hc]
  · exact List.cons_ne_nil c cs
  · refine iff_of_false (not_reaches_cons ?_) (List.cons_ne_nil c cs)
    rw [step?_number_digits, if_neg hc]

theorem exists_append_nil_iff {P : List Char → Prop} {text : List Char} :
    (∃ digits rest, text = digits ++ rest ∧ P digits ∧ rest = []) ↔ P text := by
  constructor
  · rintro ⟨digits, rest, rfl, hP, rfl⟩; rw [List.append_nil]; exact hP
  · intro hP; exact ⟨text, [], (List.append_nil text).symm, hP, rfl⟩

theorem reaches_number_sign (text : List Char) : number.Reaches 5 text ↔ IsDigitRun text := by
  rw [reaches_iff_digitRun step?_number_sign rfl reaches_number_digits, exists_append_nil_iff]

theorem reaches_number_marker (text : List Char) :
    number.Reaches 4 text ↔ IsSignedDigitRun text := by
  rcases text with _ | ⟨c, cs⟩
  · refine iff_of_false (fun h => ?_) ?_
    · rw [reaches_nil] at h; cases h
    · rintro (h | ⟨d, -, digits, he, -⟩)
      · exact h.1 rfl
      · cases he
  · rw [reaches_cons, step?_number_marker]
    by_cases hc : c.isDigit = true
    · rw [if_pos hc]
      simp only [Option.some.injEq, exists_eq_left', reaches_number_digits]
      rw [← and_iff_right hc (b := AfterDigits _ cs), digit_and_afterDigits_iff,
        exists_append_nil_iff]
      refine ⟨Or.inl, fun h => h.resolve_right ?_⟩
      rintro ⟨d, hd, digits, he, -⟩
      cases he
      exact not_mem_signs_of_digit hc hd
    · rw [if_neg hc]
      have hrun : ¬ IsDigitRun (c :: cs) := fun h => hc (h.2 c List.mem_cons_self)
      by_cases hs : c ∈ ['+', '-']
      · rw [if_pos hs]
        simp only [Option.some.injEq, exists_eq_left', reaches_number_sign]
        refine ⟨fun h => Or.inr ⟨c, hs, cs, rfl, h⟩, fun h => ?_⟩
        obtain ⟨d, -, digits, he, hd⟩ := h.resolve_left hrun
        cases he; exact hd
      · rw [if_neg hs]
        refine iff_of_false (by simp) fun h => ?_
        obtain ⟨d, hd, digits, he, -⟩ := h.resolve_left hrun
        cases he; exact hs hd

theorem reaches_number_fraction (text : List Char) :
    number.Reaches 3 text ↔ AfterDigits IsExponent text := by
  refine reaches_iff_afterDigits (q := 3) (fun c hc => ?_) (iff_of_true rfl (Or.inl rfl))
    (fun c cs hc => not_isExponent_cons_of_digit hc) (fun c cs hc => ?_) text
  · rw [step?_number_fraction, if_pos hc]
  · rw [reaches_cons, step?_number_fraction, if_neg hc, isExponent_cons]
    by_cases hm : c ∈ ['E', 'e']
    · rw [if_pos hm]
      simp only [Option.some.injEq, exists_eq_left', reaches_number_marker]
      exact (and_iff_right hm).symm
    · rw [if_neg hm]
      exact iff_of_false (by simp) fun h => hm h.1

theorem reaches_number_point (text : List Char) :
    number.Reaches 2 text ↔
      ∃ digits exponent, text = digits ++ exponent ∧ IsDigitRun digits ∧ IsExponent exponent :=
  reaches_iff_digitRun step?_number_point rfl reaches_number_fraction text

/-- What can follow the whole part of a numeral. -/
def IsNumeralTail (text : List Char) : Prop :=
  ∃ point digits exponent, text = point ++ exponent ∧ IsFraction point digits ∧ IsExponent exponent

theorem isNumeralTail_cons {c : Char} {cs : List Char} :
    IsNumeralTail (c :: cs) ↔ (c = '.' ∧ number.Reaches 2 cs) ∨ IsExponent (c :: cs) := by
  rw [reaches_number_point]
  constructor
  · rintro ⟨point, digits, exponent, he, (⟨rfl, rfl⟩ | ⟨rfl, hd⟩), hx⟩
    · rw [List.nil_append] at he; rw [he]; exact Or.inr hx
    · rw [List.cons_append, List.cons.injEq] at he
      exact Or.inl ⟨he.1, digits, exponent, he.2, hd, hx⟩
  · rintro (⟨rfl, digits, exponent, rfl, hd, hx⟩ | hx)
    · exact ⟨'.' :: digits, digits, exponent, rfl, Or.inr ⟨rfl, hd⟩, hx⟩
    · exact ⟨[], [], c :: cs, rfl, Or.inl ⟨rfl, rfl⟩, hx⟩

theorem reaches_number_whole (text : List Char) :
    number.Reaches 1 text ↔ AfterDigits IsNumeralTail text := by
  refine reaches_iff_afterDigits (q := 1) (fun c hc => ?_)
    (iff_of_true rfl ⟨[], [], [], rfl, Or.inl ⟨rfl, rfl⟩, Or.inl rfl⟩)
    (fun c cs hc => ?_) (fun c cs hc => ?_) text
  · rw [step?_number_whole, if_pos hc]
  · rw [isNumeralTail_cons]
    rintro (⟨rfl, -⟩ | hx)
    · cases hc
    · exact not_isExponent_cons_of_digit hc hx
  · rw [reaches_cons, step?_number_whole, if_neg hc, isNumeralTail_cons, isExponent_cons]
    by_cases hp : c ∈ ['.']
    · rw [if_pos hp]
      rw [List.mem_singleton] at hp
      simp [hp]
    · rw [if_neg hp]
      rw [List.mem_singleton] at hp
      by_cases hm : c ∈ ['E', 'e']
      · rw [if_pos hm]
        simp only [Option.some.injEq, exists_eq_left', reaches_number_marker]
        exact ⟨fun h => Or.inr ⟨hm, h⟩, fun h => (h.resolve_left fun h => hp h.1).2⟩
      · rw [if_neg hm]
        exact iff_of_false (by simp) fun h => h.elim (fun h => hp h.1) (fun h => hm h.1)

/-- **The language of `number`.** -/
theorem matches_number_iff {text : List Char} : number.Matches text ↔ IsNumeral text := by
  unfold Matches
  show _ ∧ number.Reaches 0 text ↔ _
  rw [reaches_iff_digitRun step?_number_start rfl reaches_number_whole]
  constructor
  · rintro ⟨-, whole, rest, rfl, hw, point, digits, exponent, rfl, hp, hx⟩
    exact ⟨digits, whole, point, exponent, rfl, hw, hp, hx⟩
  · rintro ⟨digits, whole, point, exponent, rfl, hw, hp, hx⟩
    refine ⟨fun h => hw.1 (List.append_eq_nil_iff.mp h).1, whole, point ++ exponent, rfl, hw, ?_⟩
    exact ⟨point, digits, exponent, rfl, hp, hx⟩

end Automaton

end BlockLang
