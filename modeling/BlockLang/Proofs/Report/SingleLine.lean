import BlockLang.Proofs.Checking.Mentions
import BlockLang.Proofs.Checking.Replay
import BlockLang.Proofs.Lexing.Diagnostics

/-! # Messages of a single line

What a message takes from the program text has no line break in it, so the message has none.

* `Text.isLineBreak`: the characters at which a reader may break lines. All of them are blanks.
* `Text.SingleLine`: a text without line breaks.
* `Problem.texts`: the texts that the message of a problem takes from elsewhere. If these have no
  line breaks, the message has none (`Problem.singleLine_message`).
* `singleLine_findings`: so it is for every finding on a program. A character is called invalid only
  if it is no blank, numbers are ASCII, and the names that are mentioned are words.
* `one_le_line_findings`: every finding is on a line of the program, counted from one. -/

namespace BlockLang

/-! ### Texts without line breaks -/

namespace Text

/-- The characters that end lines: the line feed, the carriage return and the controls between them,
the separators of files, groups and records, the next-line control, and the separators of lines and
paragraphs. -/
def isLineBreak (c : Char) : Bool :=
  let n := c.toNat
  0x0a ≤ n && n ≤ 0x0d || 0x1c ≤ n && n ≤ 0x1e || n == 0x85 || n == 0x2028 || n == 0x2029

theorem isBlank_of_isLineBreak {c : Char} (h : isLineBreak c = true) : isBlank c = true := by
  simp only [isLineBreak, isBlank, Bool.or_eq_true, Bool.and_eq_true, decide_eq_true_eq,
    beq_iff_eq] at h ⊢
  omega

/-- **A text of a single line.** -/
def SingleLine (text : String) : Prop := ∀ c ∈ text.toList, isLineBreak c = false

instance (text : String) : Decidable (SingleLine text) :=
  decidable_of_iff (text.toList.all (!isLineBreak ·) = true) (by simp [SingleLine])

theorem singleLine_of_not_isBlank {text : String} (h : ∀ c ∈ text.toList, isBlank c = false) :
    SingleLine text := by
  intro c hc
  rw [Bool.eq_false_iff]
  intro hb
  have hblank := h c hc
  rw [isBlank_of_isLineBreak hb] at hblank
  cases hblank

theorem SingleLine.append {text text' : String} (h : SingleLine text) (h' : SingleLine text') :
    SingleLine (text ++ text') := by
  intro c hc
  rw [String.toList_append, List.mem_append] at hc
  exact hc.elim (h c) (h' c)

theorem SingleLine.newline_notMem {text : String} (h : SingleLine text) : '\n' ∉ text.toList :=
  fun hm => by cases h '\n' hm

theorem singleLine_char {c : Char} (h : isBlank c = false) : SingleLine c.toString := by
  refine singleLine_of_not_isBlank fun d hd => ?_
  rw [Char.toString, String.toList_singleton, List.mem_singleton] at hd
  rw [hd]
  exact h

theorem chars_toString (n : Int) : ∀ c ∈ (toString n).toList, c.isDigit = true ∨ c = '-' := by
  intro c hc
  cases n with
  | ofNat m => exact Or.inl (isDigit_of_mem_toString hc)
  | negSucc m =>
    change c ∈ ("-" ++ toString m.succ).toList at hc
    rw [String.toList_append, List.mem_append] at hc
    rcases hc with hc | hc
    · exact Or.inr (List.mem_singleton.mp hc)
    · exact Or.inl (isDigit_of_mem_toString hc)

theorem singleLine_toString (n : Int) : SingleLine (toString n) := by
  refine singleLine_of_not_isBlank fun c hc => ?_
  rcases chars_toString n c hc with hd | rfl
  · have hv := Automaton.isDigit_iff.mp hd
    exact isBlank_of_visible (by omega) (by omega)
  · decide

end Text

open Text (SingleLine)

/-! ### Messages -/

namespace Problem

/-- The texts that the message of a problem takes from elsewhere. -/
def texts : Problem → List String
  | invalidCharacter c => [c.toString]
  | fractionTooLong limit lexeme => [toString limit, lexeme]
  | invalidExponent lexeme => [lexeme]
  | p => p.mentioned?.toList

/-- **The wording has no line break**, only what is put into it can have one. -/
theorem singleLine_message {p : Problem} (h : ∀ text ∈ p.texts, SingleLine text) :
    SingleLine p.message := by
  have hwords : ∀ {a b : String} (text : String), SingleLine text → SingleLine a → SingleLine b →
      SingleLine (a ++ text ++ b) := fun _ ht ha hb => (ha.append ht).append hb
  have hfixed : ∀ q ∈ fixed, SingleLine q.message := by decide
  cases p with
  | unclosedComment | unclosedString | unclosedCharacter | unclosedBlock =>
    exact hfixed _ (by decide)
  | invalidCharacter c => exact hwords _ (h _ List.mem_cons_self) (by decide) (by decide)
  | fractionTooLong limit lexeme =>
    have hlimit := h (toString limit) List.mem_cons_self
    have hlexeme := h lexeme (List.mem_cons_of_mem _ List.mem_cons_self)
    exact (hwords _ hlimit (by decide) (by decide)).append hlexeme
  | invalidExponent text | expectedName text =>
    exact SingleLine.append (by decide) (h _ List.mem_cons_self)
  | invalidName text | redeclared text =>
    exact hwords _ (h _ List.mem_cons_self) (by decide) (by decide)
  | undeclared form text =>
    cases form <;> exact hwords _ (h _ List.mem_cons_self) (by decide) (by decide)
  | missingAssign form text | missingSemicolon form text =>
    cases form <;> exact SingleLine.append (by decide) (h _ List.mem_cons_self)

end Problem

/-! ### Lexical findings -/

theorem singleLine_of_mem_numberProblems {limit : Int} {lexeme : String}
    (hl : IsNumeral lexeme.toList) {p : Problem} (hp : p ∈ numberProblems limit lexeme) :
    ∀ text ∈ p.texts, SingleLine text := by
  have hlexeme : SingleLine lexeme := Text.singleLine_of_not_isBlank hl.not_isBlank
  rcases eq_of_mem_numberProblems hp with rfl | rfl
  · rw [Problem.texts]
    simp only [List.forall_mem_cons]
    exact ⟨Text.singleLine_toString limit, hlexeme, List.forall_mem_nil _⟩
  · exact List.forall_mem_singleton.mpr hlexeme

/-- **What is told about a segment is a single line.** A line break is a blank, and no blank is
called invalid. -/
theorem Segment.Heads.singleLine_texts {s : Segment} {rest : List Char} (h : s.Heads rest)
    {limit : Int} {p : Problem} (hp : p ∈ s.problems limit) :
    ∀ text ∈ p.texts, SingleLine text := by
  obtain ⟨r, hfirst, ht⟩ := h
  cases ht with
  | @number lexeme _ hl =>
    refine singleLine_of_mem_numberProblems ?_ hp
    rw [Segment.lexeme, String.toList_ofList]
    exact hl.mem
  | @invalid c =>
    rw [List.mem_singleton.mp hp, Problem.texts]
    refine List.forall_mem_singleton.mpr (Text.singleLine_char (Bool.eq_false_iff.mpr fun hb => ?_))
    exact hfirst.2 .blank (by decide) (ScanRule.applies_blank.mpr hb)
  | openComment | openString | openEscape | openChar | emptyChar | emptyEscape =>
    rw [List.mem_singleton.mp hp]
    exact List.forall_mem_nil _
  | _ => cases hp

theorem singleLine_of_mem_lexicalFindings {limit : Int} {source : String} {f : Finding}
    (h : f ∈ lexicalFindings limit source) : ∀ text ∈ f.problem.texts, SingleLine text := by
  obtain ⟨-, s, hs, hp⟩ := exists_segment_of_mem h
  obtain ⟨rest, hh⟩ := (segmentation_segments source.toList).exists_heads hs
  exact hh.singleLine_texts hp

/-! ### Findings on statements -/

theorem singleLine_lexeme {source : String} {t : Token} (hm : t ∈ tokenize source)
    (h : t.kind = .identifier ∨ t.isTypeKeyword = true) : SingleLine t.lexeme := by
  have hword : IsWord t.lexeme.toList := by
    rcases h with hk | hk
    · exact isWord_of_mem_tokenize hm hk
    · rw [Token.isTypeKeyword, decide_eq_true_eq] at hk
      exact isWord_of_mem_keywords (typeKeywords_subset_keywords hk.2)
  exact Text.singleLine_of_not_isBlank hword.not_isBlank

theorem singleLine_of_mem_checkStatements {source : String} {f : Finding}
    (h : f ∈ (checkStatements source).findings) : ∀ text ∈ f.problem.texts, SingleLine text := by
  have hf := concerns_check h
  obtain ⟨line, p⟩ := f
  have htexts : p.texts = p.mentioned?.toList := by
    cases p with
    | invalidCharacter | fractionTooLong | invalidExponent => cases hf.kind
    | _ => rfl
  intro text ht
  rw [htexts, Option.mem_toList] at ht
  obtain ⟨t, hm, rfl, hname⟩ := hf.mentioned text ht
  exact singleLine_lexeme hm hname

theorem le_line_of_mem_tokensFrom : ∀ {segs : List Segment} {line : Int} {t : Token},
    t ∈ tokensFrom line segs → line ≤ t.line
  | [], line, t, h => by rw [List.mem_singleton.mp h]
  | s :: segs, line, t, h => by
    rcases List.mem_append.mp h with h | h
    · obtain ⟨content, -, rfl⟩ := Option.map_eq_some_iff.mp (Option.mem_toList.mp h)
      exact Int.le_refl _
    · have hle := le_line_of_mem_tokensFrom h
      omega

/-! ### All findings -/

section Findings

variable {options : Options} {source filename : String} {f : Finding}

/-- **Every message is a single line.** -/
theorem singleLine_findings (h : f ∈ (check options source filename).findings) :
    SingleLine f.problem.message := by
  refine Problem.singleLine_message ?_
  rcases List.mem_append.mp h with h | h
  · exact singleLine_of_mem_lexicalFindings h
  · exact singleLine_of_mem_checkStatements h

theorem one_le_line_findings (h : f ∈ (check options source filename).findings) : 1 ≤ f.line := by
  rcases List.mem_append.mp h with h | h
  · exact (exists_segment_of_mem h).1
  · obtain ⟨t, hm, hl⟩ := (concerns_check h).line
    rw [hl]
    exact le_line_of_mem_tokensFrom hm

end Findings

end BlockLang
