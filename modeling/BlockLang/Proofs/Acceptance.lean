import BlockLang.Proofs.Checking.Grammar
import BlockLang.Proofs.Lexing.Numeral
import BlockLang.Proofs.Lexing.Segmentation

/-! # The language that is accepted

A text is in the language if every segment of it is proper and its tokens are derived in the
grammar (`InLanguage`). These are exactly the texts on which nothing is reported: the lexical
findings are those on improper segments (`findingsFrom_eq_nil_iff`), and the others are those on
tokens that are not derived (`findings_eq_nil_iff`). -/

namespace BlockLang

/-- Whether a segment can stand in a program: a comment or literal must be closed, a fraction must
not be longer than the limit, and a character must begin something. -/
def Segment.IsProper (limit : Int) (s : Segment) : Prop :=
  match s.shape with
  | .blockComment closed | .string _ closed | .char _ closed => closed = true
  | .number => ∃ digits, HasFraction s.text digits ∧ (digits = [] ∨ digits.length ≤ limit)
  | .invalid => False
  | .blank | .openBrace | .closeBrace | .semicolon | .lineComment | .word | .operator => True

/-- **A text in the language.** -/
def InLanguage (limit : Int) (source : String) : Prop :=
  ∃ segs tokens eof, Segmentation source.toList segs ∧ (∀ s ∈ segs, s.IsProper limit) ∧
    Tokenizes [] segs (tokens ++ [eof]) ∧ Derives .program [] [] tokens

/-! ### Segments -/

theorem findingsFrom_eq_nil_iff {limit : Int} : ∀ {segs : List Segment} {line : Int},
    findingsFrom limit line segs = [] ↔ ∀ s ∈ segs, s.problems limit = []
  | [], _ => iff_of_true rfl (by simp)
  | s :: segs, line => by
    rw [findingsFrom, List.append_eq_nil_iff, List.map_eq_nil_iff, findingsFrom_eq_nil_iff,
      List.forall_mem_cons]

/-- **A segment that is cut off has no problem iff it is proper.** -/
theorem Segment.Heads.problems_eq_nil_iff {s : Segment} {rest : List Char} (h : s.Heads rest)
    (limit : Int) : s.problems limit = [] ↔ s.IsProper limit := by
  obtain ⟨r, -, ht⟩ := h
  cases ht with
  | @number lexeme _ hl =>
    obtain ⟨digits, hd⟩ := hl.mem
    have hproper : Segment.IsProper limit ⟨.number, lexeme⟩ ↔
        (digits = [] ∨ digits.length ≤ limit) := by
      constructor
      · rintro ⟨digits', hd', hlimit⟩; rw [hd.unique hd']; exact hlimit
      · intro hlimit; exact ⟨digits, hd, hlimit⟩
    rw [hproper]
    show numberProblems limit (String.ofList lexeme) = [] ↔ _
    rw [numberProblems_of_hasFraction limit hd]
    by_cases hnil : digits = []
    · simp [hnil]
    · simp [hnil]
  | _ => simp [Segment.problems, Segment.IsProper]

theorem lexicalFindings_eq_nil_iff {limit : Int} {source : String} :
    lexicalFindings limit source = [] ↔
      ∀ s ∈ segments source.toList, s.IsProper limit := by
  rw [lexicalFindings, findingsFrom_eq_nil_iff]
  refine forall₂_congr fun s hs => ?_
  obtain ⟨rest, hh⟩ := (segmentation_segments source.toList).exists_heads hs
  exact hh.problems_eq_nil_iff limit

/-! ### Tokens -/

theorem Segment.Denotes.kind_ne {s : Segment} {kind : TokenKind} {lexeme : List Char}
    (h : s.Denotes kind lexeme) : kind ≠ .endOfInput := by
  cases h <;> decide

theorem checkStatements_eq_nil_iff {source : String} :
    (checkStatements source).findings = [] ↔ ∃ tokens eof,
      Tokenizes [] (segments source.toList) (tokens ++ [eof]) ∧ Derives .program [] [] tokens := by
  obtain ⟨tokens, line, he, ht⟩ := exists_tokensFrom_eq (segments source.toList) 1
  have hplain : ∀ t ∈ tokens, t.kind ≠ .endOfInput := by
    intro t hm
    obtain ⟨s, -, hd⟩ := ht t hm
    exact hd.kind_ne
  have htokens : ∀ tokens', Tokenizes [] (segments source.toList) tokens' ↔
      tokens' = tokens ++ [⟨.endOfInput, "", line⟩] := by
    intro tokens'
    rw [tokenizes_iff, ← he]
    rfl
  rw [checkStatements, tokenize, he, findings_eq_nil_iff hplain rfl]
  constructor
  · intro hd
    exact ⟨tokens, _, (htokens _).mpr rfl, hd⟩
  · rintro ⟨tokens', eof, htok, hd⟩
    obtain ⟨rfl, -⟩ := List.append_inj' ((htokens _).mp htok) rfl
    exact hd

/-! ### Programs -/

theorem success_iff {options : Options} {source filename : String} :
    (check options source filename).success = true ↔
      InLanguage options.maxFractionDigits source := by
  rw [Outcome.success, List.isEmpty_iff, check]
  dsimp only
  rw [List.append_eq_nil_iff, lexicalFindings_eq_nil_iff, checkStatements_eq_nil_iff]
  constructor
  · rintro ⟨hproper, tokens, eof, htok, hd⟩
    exact ⟨_, tokens, eof, segmentation_segments _, hproper, htok, hd⟩
  · rintro ⟨segs, tokens, eof, hsegs, hproper, htok, hd⟩
    obtain rfl := hsegs.eq_segments
    exact ⟨hproper, tokens, eof, htok, hd⟩

/-- **Exactly the language is accepted.** A run reports nothing on a text iff every segment of the
text is proper and its tokens are derived in the grammar, and these are also the texts that are
accepted rather than refused. -/
theorem accepts_exactly_language (options : Options) (source filename : String) :
    ((check options source filename).success = true ↔
      InLanguage options.maxFractionDigits source) ∧
    ((∃ o, (check options source filename).accepted = .ok o) ↔
      InLanguage options.maxFractionDigits source) := by
  have hs : (check options source filename).success = true ↔ _ := success_iff
  refine ⟨hs, ?_⟩
  rw [← hs, Outcome.accepted]
  constructor
  · rintro ⟨o, ho⟩
    by_contra h
    rw [if_neg h] at ho
    cases ho
  · intro h
    exact ⟨_, if_pos h⟩

end BlockLang
