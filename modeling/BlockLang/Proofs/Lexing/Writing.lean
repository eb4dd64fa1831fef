import BlockLang.Proofs.Lexing.Numeral
import BlockLang.Proofs.Lexing.Segmentation

/-! # Writing tokens

A token is *written* as its lexeme; a literal gets its marks back, and a backslash before every
backslash and every `"` of a string. Tokens are written with one blank between them.

* `Token.WellFormed`: the tokens that a program text can have, except for empty character literals.
* `Token.segment`: the segment that a token is written as. With a blank or nothing after it, it is
  what the scan cuts off (`Token.WellFormed.heads`): no token merges with the next one, and `/` does
  not start a comment. -/

namespace BlockLang

open Automaton (operatorChars isLower_iff isDigit_iff)

/-- A text with a backslash before each of some characters. -/
def escaped (marks text : List Char) : List Char :=
  text.flatMap fun c => if c ∈ marks then ['\\', c] else [c]

namespace Token

/-- A token of a program text, with any line, that is no empty character literal. -/
def WellFormed (t : Token) : Prop :=
  match t.kind with
  | .keyword => t.lexeme ∈ keywords
  | .identifier => IsWord t.lexeme.toList ∧ t.lexeme ∉ keywords
  | .number => IsNumeral t.lexeme.toList
  | .operator => IsOperator t.lexeme.toList
  | .string => True
  | .char => ∃ c, t.lexeme.toList = [c]
  | .openBrace => t.lexeme.toList = ['{']
  | .closeBrace => t.lexeme.toList = ['}']
  | .semicolon => t.lexeme.toList = [';']
  | .endOfInput => False

/-- The shape of the segment that a token is written as. -/
def shape (t : Token) : Shape :=
  match t.kind with
  | .keyword | .identifier => .word
  | .number => .number
  | .operator => .operator
  | .string => .string t.lexeme.toList true
  | .char => .char t.lexeme.toList true
  | .openBrace => .openBrace
  | .closeBrace => .closeBrace
  | .semicolon => .semicolon
  | .endOfInput => .invalid

/-- A token as a piece of a program text. -/
def written (t : Token) : List Char :=
  match t.kind with
  | .string => '"' :: (escaped ['"', '\\'] t.lexeme.toList ++ ['"'])
  | .char => '\'' :: (escaped ['\\'] t.lexeme.toList ++ ['\''])
  | _ => t.lexeme.toList

/-- The segment that a token is written as. -/
def segment (t : Token) : Segment := ⟨t.shape, t.written⟩

end Token

/-! ### Escapes -/

theorem quoted_escaped : ∀ value : List Char, Quoted (escaped ['"', '\\'] value) value
  | [] => .nil
  | c :: value => by
    have ih := quoted_escaped value
    rw [escaped, List.flatMap_cons, ← escaped]
    by_cases hc : c ∈ ['"', '\\']
    · have hu : unescape c = c := by
        rw [List.mem_cons, List.mem_singleton] at hc
        rcases hc with rfl | rfl <;> rfl
      have he := Quoted.escape (c := c) ih
      rw [hu] at he
      rw [if_pos hc]
      exact he
    · rw [if_neg hc]
      rw [List.mem_cons, List.mem_singleton, not_or] at hc
      exact .plain hc.1 hc.2 ih

theorem spells_escaped (c : Char) : Spells (escaped ['\\'] [c]) c := by
  rw [escaped, List.flatMap_cons, List.flatMap_nil, List.append_nil]
  by_cases hc : c ∈ ['\\']
  · rw [if_pos hc]
    rw [List.mem_singleton] at hc
    subst hc
    exact .escape
  · rw [if_neg hc]
    rw [List.mem_singleton] at hc
    exact .plain hc

theorem lineBreaks_escaped (marks : List Char) :
    ∀ text : List Char, lineBreaks (escaped marks text) = lineBreaks text
  | [] => rfl
  | c :: text => by
    have hc : lineBreaks (if c ∈ marks then ['\\', c] else [c]) = lineBreaks [c] := by
      split
      · exact List.count_cons_of_ne (by decide)
      · rfl
    rw [escaped, List.flatMap_cons, ← escaped, lineBreaks_append, lineBreaks_escaped marks text, hc,
      ← lineBreaks_append]
    rfl

theorem Token.lineBreaks_written (t : Token) :
    lineBreaks t.written = lineBreaks t.lexeme.toList := by
  have hmark : ∀ (d : Char) (text : List Char), d ≠ '\n' →
      lineBreaks (d :: (text ++ [d])) = lineBreaks text := by
    intro d text hd
    rw [lineBreaks, List.count_cons_of_ne hd, List.count_append, List.count_singleton]
    simp [lineBreaks, hd]
  unfold Token.written
  split
  · rw [hmark '"' _ (by decide), lineBreaks_escaped]
  · rw [hmark '\'' _ (by decide), lineBreaks_escaped]
  · rfl

/-! ### The first rule by the first character -/

theorem isBlank_of_visible {c : Char} (h : 0x21 ≤ c.toNat) (h' : c.toNat ≤ 0x7e) :
    Text.isBlank c = false := by
  simp only [Text.isBlank, Bool.or_eq_false_iff, Bool.and_eq_false_iff, decide_eq_false_iff_not,
    beq_eq_false_iff_ne]
  omega

namespace ScanRule

/-- Whether a rule can apply to a text that starts with a character. -/
def Starts : ScanRule → Char → Prop
  | blank, c => Text.isBlank c = true
  | punctuation, c => c ∈ ['{', '}', ';']
  | comment, c => c = '/'
  | string, c => c = '"'
  | char, c => c = '\''
  | word, c => c.isLower = true
  | number, c => c.isDigit = true
  | operator, c => c ∈ operatorChars
  | invalid, _ => True

instance (r : ScanRule) (c : Char) : Decidable (r.Starts c) := by
  cases r <;> unfold Starts <;> infer_instance

theorem starts_of_applies {r : ScanRule} {c : Char} {rest : List Char}
    (h : r.Applies (c :: rest)) : r.Starts c := by
  cases r with
  | blank => exact applies_blank.mp h
  | punctuation => exact applies_punctuation.mp h
  | comment => exact (applies_comment.mp h).1
  | string => exact applies_string.mp h
  | char => exact applies_char.mp h
  | word =>
    obtain ⟨l, hp, hne, hl⟩ := h
    obtain ⟨d, l, rfl⟩ := List.exists_cons_of_ne_nil hne
    obtain ⟨rfl, -⟩ := List.cons_prefix_cons.mp hp
    exact hl d List.mem_cons_self
  | number =>
    obtain ⟨l, hp, digits, whole, point, exponent, rfl, hw, -⟩ := h
    obtain ⟨d, whole, rfl⟩ := List.exists_cons_of_ne_nil hw.1
    obtain ⟨rfl, -⟩ := List.cons_prefix_cons.mp hp
    exact hw.2 d List.mem_cons_self
  | operator =>
    obtain ⟨l, hp, d, hd, rfl | rfl⟩ := h
    · obtain ⟨rfl, -⟩ := List.cons_prefix_cons.mp hp; exact hd
    · obtain ⟨rfl, -⟩ := List.cons_prefix_cons.mp hp; exact hd
  | invalid => trivial

theorem mem_order (r : ScanRule) : r ∈ order := by cases r <;> decide

theorem isFirst_of_starts {r : ScanRule} {c : Char} {rest : List Char}
    (h : r.Applies (c :: rest))
    (hn : ∀ r' : ScanRule, r'.Precedes r → r'.Starts c → ¬ r'.Applies (c :: rest)) :
    r.IsFirst (c :: rest) :=
  ⟨h, fun r' hp ha => hn r' hp (starts_of_applies ha) ha⟩

/-- Blanks, punctuation, comments and literals start with no other visible character. -/
theorem not_starts_of_visible {c : Char} (h : 0x21 ≤ c.toNat) (h' : c.toNat ≤ 0x7e)
    (hm : c ∉ ['{', '}', ';', '/', '"', '\'']) :
    ∀ r : ScanRule, r.Precedes word → ¬ r.Starts c := by
  intro r hp hs
  cases r with
  | blank => exact absurd (isBlank_of_visible h h') (ne_false_of_eq_true hs)
  | punctuation => exact hm (List.mem_append_left ['/', '"', '\''] hs)
  | comment =>
    obtain rfl : c = '/' := hs
    exact hm (by decide)
  | string =>
    obtain rfl : c = '"' := hs
    exact hm (by decide)
  | char =>
    obtain rfl : c = '\'' := hs
    exact hm (by decide)
  | _ => exact absurd hp (by decide)

theorem not_starts_of_lower {c : Char} (hc : c.isLower = true) :
    ∀ r : ScanRule, r.Precedes word → ¬ r.Starts c := by
  have hv := isLower_iff.mp hc
  have hm : ['{', '}', ';', '/', '"', '\''].all (!·.isLower) = true := by decide
  refine not_starts_of_visible (by omega) (by omega) fun h => ?_
  have hl := List.all_eq_true.mp hm c h
  rw [hc] at hl
  cases hl

theorem not_starts_of_digit {c : Char} (hc : c.isDigit = true) :
    ∀ r : ScanRule, r.Precedes number → ¬ r.Starts c := by
  have hv := isDigit_iff.mp hc
  have hm : ['{', '}', ';', '/', '"', '\''].all (!·.isDigit) = true := by decide
  intro r hp hs
  by_cases hr : r = word
  · subst hr
    have := isLower_iff.mp hs
    omega
  · refine not_starts_of_visible (by omega) (by omega) (fun h => ?_) r ?_ hs
    · have hd := List.all_eq_true.mp hm c h
      rw [hc] at hd
      cases hd
    have hnext : ∀ r' ∈ order, r'.Precedes number → r' ≠ word → r'.Precedes word := by decide
    exact hnext r (mem_order r) hp hr

theorem eq_comment_of_starts_of_operator {c : Char} (hc : c ∈ operatorChars) {r : ScanRule}
    (hp : r.Precedes operator) (hs : r.Starts c) : r = comment := by
  have h : operatorChars.all (fun d => order.all fun r' =>
      decide (r'.Precedes operator → r'.Starts d → r' = comment)) = true := by decide
  have hr := List.all_eq_true.mp (List.all_eq_true.mp h c hc) r (mem_order r)
  exact of_decide_eq_true hr hp hs

end ScanRule

/-! ### Lexemes and blanks -/

theorem prefix_of_prefix_before {text more l : List Char} {b : Char}
    (h : l <+: text ++ b :: more) (hb : b ∉ l) : l <+: text := by
  rcases List.prefix_or_prefix_of_prefix h (List.prefix_append text _) with hl | ⟨tail, rfl⟩
  · exact hl
  · rcases tail with _ | ⟨c, tail⟩
    · exact ⟨[], by rw [List.append_nil, List.append_nil]⟩
    · obtain ⟨rfl, -⟩ := List.cons_prefix_cons.mp ((List.prefix_append_right_inj text).mp h)
      exact absurd (List.mem_append_right text List.mem_cons_self) hb

theorem not_isBlank_of_all {cs : List Char} (h : (cs.all fun c => !Text.isBlank c) = true) :
    ∀ c ∈ cs, Text.isBlank c = false := by
  intro c hc
  have hb := List.all_eq_true.mp h c hc
  rwa [Bool.not_eq_true'] at hb

theorem IsOperator.not_isBlank {text : List Char} (h : IsOperator text) :
    ∀ c ∈ text, Text.isBlank c = false := by
  have hop : ∀ c ∈ '=' :: operatorChars, Text.isBlank c = false := not_isBlank_of_all (by decide)
  obtain ⟨d, hd, rfl | rfl⟩ := h
  · intro c hc
    rw [List.mem_singleton.mp hc]
    exact hop d (List.mem_cons_of_mem _ hd)
  · intro c hc
    rcases List.mem_cons.mp hc with rfl | hc
    · exact hop c (List.mem_cons_of_mem _ hd)
    · rw [List.mem_singleton.mp hc]
      exact hop '=' List.mem_cons_self

theorem IsWord.not_isBlank {text : List Char} (h : IsWord text) :
    ∀ c ∈ text, Text.isBlank c = false := by
  intro c hc
  have hv := Automaton.isLower_iff.mp (h.2 c hc)
  exact isBlank_of_visible (by omega) (by omega)

theorem IsNumeral.not_isBlank {text : List Char} (h : IsNumeral text) :
    ∀ c ∈ text, Text.isBlank c = false := by
  have hmark : ∀ c ∈ ['.', 'E', 'e', '+', '-'], Text.isBlank c = false :=
    not_isBlank_of_all (by decide)
  intro c hc
  rcases h.chars c hc with hd | hm
  · have hv := Automaton.isDigit_iff.mp hd
    exact isBlank_of_visible (by omega) (by omega)
  · exact hmark c hm

/-! ### Written tokens -/

/-- A blank or nothing comes next. -/
def Separated (rest : List Char) : Prop := ∀ c ∈ rest.head?, c = ' '

theorem longest_of_separated {L : List Char → Prop} {lexeme rest : List Char} (hL : L lexeme)
    (hblank : ∀ l, L l → ∀ c ∈ l, Text.isBlank c = false) (hr : Separated rest) :
    Longest L lexeme rest := by
  refine ⟨hL, fun l hl hp => ?_⟩
  rcases rest with _ | ⟨c, rest⟩
  · rw [List.append_nil] at hp
    exact hp.length_le
  · obtain rfl := hr c rfl
    have hspace : ' ' ∉ l := fun hm => Bool.false_ne_true (hblank l hl ' ' hm).symm
    exact (prefix_of_prefix_before hp hspace).length_le

theorem isWord_of_mem_keywords {lexeme : String} (h : lexeme ∈ keywords) :
    IsWord lexeme.toList := by
  have hk : keywords.all (fun k => decide (k.toList ≠ []) && k.toList.all Char.isLower) = true := by
    decide
  have hl := List.all_eq_true.mp hk lexeme h
  rw [Bool.and_eq_true, List.all_eq_true] at hl
  exact ⟨of_decide_eq_true hl.1, hl.2⟩

theorem heads_word {lexeme rest : List Char} (h : IsWord lexeme) (hr : Separated rest) :
    Segment.Heads ⟨.word, lexeme⟩ rest := by
  refine ⟨.word, ?_, .word (longest_of_separated h (fun _ => IsWord.not_isBlank) hr)⟩
  have ha : ScanRule.word.Applies (lexeme ++ rest) := ⟨lexeme, List.prefix_append _ _, h⟩
  obtain ⟨c, cs, rfl⟩ := List.exists_cons_of_ne_nil h.1
  exact ScanRule.isFirst_of_starts ha fun r hp hs =>
    absurd hs (ScanRule.not_starts_of_lower (h.2 c List.mem_cons_self) r hp)

theorem heads_number {lexeme rest : List Char} (h : IsNumeral lexeme) (hr : Separated rest) :
    Segment.Heads ⟨.number, lexeme⟩ rest := by
  refine ⟨.number, ?_, .number (longest_of_separated h (fun _ => IsNumeral.not_isBlank) hr)⟩
  have ha : ScanRule.number.Applies (lexeme ++ rest) := ⟨lexeme, List.prefix_append _ _, h⟩
  obtain ⟨digits, whole, point, exponent, rfl, hw, -⟩ := h
  obtain ⟨c, whole, rfl⟩ := List.exists_cons_of_ne_nil hw.1
  exact ScanRule.isFirst_of_starts ha fun r hp hs =>
    absurd hs (ScanRule.not_starts_of_digit (hw.2 c List.mem_cons_self) r hp)

theorem not_applies_comment_of_operator {lexeme rest : List Char} (h : IsOperator lexeme)
    (hr : Separated rest) : ¬ ScanRule.comment.Applies (lexeme ++ rest) := by
  have hsecond : ∀ d ∈ ['/', '*'], ¬ ['/', d] <+: lexeme ++ rest := by
    intro d hd hp
    obtain ⟨c, -, rfl | rfl⟩ := h
    · obtain ⟨-, hp⟩ := List.cons_prefix_cons.mp hp
      obtain ⟨tail, rfl⟩ := hp
      have := hr d rfl
      subst this
      revert hd; decide
    · obtain ⟨-, hp⟩ := List.cons_prefix_cons.mp hp
      obtain ⟨rfl, -⟩ := List.cons_prefix_cons.mp hp
      revert hd; decide
  rintro (h | h)
  · exact hsecond '/' (by decide) h
  · exact hsecond '*' (by decide) h

theorem heads_operator {lexeme rest : List Char} (h : IsOperator lexeme) (hr : Separated rest) :
    Segment.Heads ⟨.operator, lexeme⟩ rest := by
  refine ⟨.operator, ?_, .operator (longest_of_separated h (fun _ => IsOperator.not_isBlank) hr)⟩
  have ha : ScanRule.operator.Applies (lexeme ++ rest) := ⟨lexeme, List.prefix_append _ _, h⟩
  have hcomment := not_applies_comment_of_operator h hr
  obtain ⟨c, cs, rfl, hc⟩ : ∃ c cs, lexeme = c :: cs ∧ c ∈ operatorChars := by
    obtain ⟨c, hc, rfl | rfl⟩ := h
    · exact ⟨c, [], rfl, hc⟩
    · exact ⟨c, ['='], rfl, hc⟩
  refine ScanRule.isFirst_of_starts ha fun r hp hs => ?_
  rw [ScanRule.eq_comment_of_starts_of_operator hc hp hs]
  exact hcomment

theorem heads_of_takes {r : ScanRule} {s : Segment} {c : Char} {cs rest : List Char}
    (hs : s.text = c :: cs) (ha : r.Applies (c :: (cs ++ rest))) (ht : r.Takes s rest)
    (hn : ∀ r' ∈ ScanRule.order, r'.Precedes r → ¬ r'.Starts c) : s.Heads rest := by
  refine ⟨r, ?_, ht⟩
  rw [hs]
  exact ScanRule.isFirst_of_starts ha fun r' hp hst =>
    absurd hst (hn r' (ScanRule.mem_order r') hp)

theorem heads_blank {b : Char} (hb : Text.isBlank b = true) (rest : List Char) :
    Segment.Heads ⟨.blank, [b]⟩ rest := by
  refine ⟨.blank, ⟨ScanRule.applies_blank.mpr hb, fun rule hp => ?_⟩, .blank⟩
  exact absurd hp (Nat.not_lt_zero _)

/-- **A written token is cut off** where a blank or nothing follows. -/
theorem Token.WellFormed.heads {t : Token} (h : t.WellFormed) {rest : List Char}
    (hr : Separated rest) : t.segment.Heads rest := by
  obtain ⟨kind, lexeme, line⟩ := t
  cases kind with
  | keyword =>
    exact heads_word (isWord_of_mem_keywords h) hr
  | identifier => exact heads_word h.1 hr
  | number => exact heads_number h hr
  | operator => exact heads_operator h hr
  | string =>
    exact heads_of_takes rfl (ScanRule.applies_string.mpr rfl) (.string (quoted_escaped _))
      (by decide)
  | char =>
    obtain ⟨c, hc⟩ := h
    show Segment.Heads ⟨.char lexeme.toList true, '\'' :: (escaped _ lexeme.toList ++ _)⟩ rest
    rw [show lexeme.toList = [c] from hc]
    exact heads_of_takes rfl (ScanRule.applies_char.mpr rfl) (.char (spells_escaped c)) (by decide)
  | openBrace =>
    show Segment.Heads ⟨.openBrace, lexeme.toList⟩ rest
    rw [show lexeme.toList = ['{'] from h]
    exact heads_of_takes rfl (ScanRule.applies_punctuation.mpr (by decide)) .openBrace (by decide)
  | closeBrace =>
    show Segment.Heads ⟨.closeBrace, lexeme.toList⟩ rest
    rw [show lexeme.toList = ['}'] from h]
    exact heads_of_takes rfl (ScanRule.applies_punctuation.mpr (by decide)) .closeBrace (by decide)
  | semicolon =>
    show Segment.Heads ⟨.semicolon, lexeme.toList⟩ rest
    rw [show lexeme.toList = [';'] from h]
    exact heads_of_takes rfl (ScanRule.applies_punctuation.mpr (by decide)) .semicolon (by decide)
  | endOfInput => exact h.elim

end BlockLang
