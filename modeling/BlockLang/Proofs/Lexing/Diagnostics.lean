import BlockLang.FrontEnd
import BlockLang.Proofs.Lexing.Numeral
import BlockLang.Proofs.Lexing.Segmentation
import BlockLang.Proofs.Messages

/-! # The lexical diagnostics of a program

Which segments are reported, in which words and on which line, read off the segmentation alone.

* `Segment.Complaint`: the message that a segment gives rise to, if it does. A segment that is cut
  off gives rise to at most one (`Segment.Heads.problems_cases`).
* `Reports`: the records on some segments, one for every complaint, on the line on which its segment
  starts. They are those of the lexical findings (`reports_iff`).
* An open comment or string literal takes all that is left, so it is the last segment, and its
  record is the last one (`Reports.last_of_isOpen`). -/

namespace BlockLang

variable {limit : Int}

namespace Segment

/-- **What is reported on a segment.** A character that begins nothing is named; a comment or a
literal may lack its end; a numeral with a point may have too many digits in its fraction. -/
inductive Complaint (limit : Int) : Segment → String → Prop
  | invalid {c : Char} :
      Complaint limit ⟨.invalid, [c]⟩ ("Invalid character: '" ++ c.toString ++ "'")
  | openComment {text : List Char} :
      Complaint limit ⟨.blockComment false, text⟩ "Unclosed multi-line comment"
  | openString {value text : List Char} :
      Complaint limit ⟨.string value false, text⟩ "Unclosed string literal"
  | openChar {value text : List Char} :
      Complaint limit ⟨.char value false, text⟩ "Unclosed character literal"
  | longFraction {text digits : List Char} : HasFraction text digits → '.' ∈ text →
      limit < digits.length → Complaint limit ⟨.number, text⟩
        ("Decimal exceeds " ++ toString limit ++ " places: " ++ String.ofList text)

/-- An open comment or an open string literal. -/
def IsOpen (s : Segment) : Prop :=
  s.shape = .blockComment false ∨ ∃ value, s.shape = .string value false

end Segment

/-- **The records on some segments** that come after the text `before`. -/
inductive Reports (limit : Int) : List Char → List Segment → List Record → Prop
  | nil {before : List Char} : Reports limit before [] []
  | silent {before : List Char} {s : Segment} {segs : List Segment} {rs : List Record} :
      (∀ message, ¬ s.Complaint limit message) → Reports limit (before ++ s.text) segs rs →
      Reports limit before (s :: segs) rs
  | report {before : List Char} {s : Segment} {segs : List Segment} {rs : List Record}
      {message : String} : s.Complaint limit message → Reports limit (before ++ s.text) segs rs →
      Reports limit before (s :: segs)
        (⟨.lexical, some (1 + before.count '\n'), message⟩ :: rs)

/-! ### One segment -/

theorem HasFraction.point_mem_iff {text digits : List Char} (h : HasFraction text digits) :
    '.' ∈ text ↔ digits ≠ [] := by
  obtain ⟨whole, point, exponent, rfl, hw, hp, hx⟩ := h
  rcases hp with ⟨rfl, rfl⟩ | ⟨rfl, hd⟩
  · simp [hw.notMem (c := '.') rfl, hx.point_notMem]
  · simp [hd.1]

theorem Segment.complaint_number_iff {text digits : List Char} (h : HasFraction text digits)
    {message : String} : Segment.Complaint limit ⟨.number, text⟩ message ↔
      (digits ≠ [] ∧ limit < digits.length) ∧
        message = (Problem.fractionTooLong limit (String.ofList text)).message := by
  constructor
  · intro hc
    cases hc with
    | longFraction h' hp hl =>
      obtain rfl := h.unique h'
      exact ⟨⟨h.point_mem_iff.mp hp, hl⟩, rfl⟩
  · rintro ⟨⟨hd, hl⟩, rfl⟩
    exact .longFraction h (h.point_mem_iff.mpr hd) hl

theorem Segment.problems_number (limit : Int) {text digits : List Char}
    (h : HasFraction text digits) :
    Segment.problems limit ⟨.number, text⟩ =
      if digits ≠ [] ∧ limit < digits.length then [.fractionTooLong limit (String.ofList text)]
      else [] :=
  numberProblems_of_hasFraction limit h

/-- **A segment that is cut off has no problem and no complaint, or one problem,** whose message is
its complaint. -/
theorem Segment.Heads.problems_cases {s : Segment} {rest : List Char} (h : s.Heads rest)
    (limit : Int) :
    (s.problems limit = [] ∧ ∀ message, ¬ s.Complaint limit message) ∨
      ∃ p, s.problems limit = [p] ∧ p.kind = .lexical ∧
        ∀ message, s.Complaint limit message ↔ message = p.message := by
  obtain ⟨r, -, ht⟩ := h
  cases ht with
  | @number lexeme _ hl =>
    obtain ⟨digits, hd⟩ := hl.mem
    have hp := Segment.problems_number limit hd
    by_cases hlong : digits ≠ [] ∧ limit < digits.length
    · rw [if_pos hlong] at hp
      exact Or.inr ⟨_, hp, rfl, fun message => by
        rw [complaint_number_iff hd, and_iff_right hlong]⟩
    · rw [if_neg hlong] at hp
      exact Or.inl ⟨hp, fun message hc => hlong ((complaint_number_iff hd).mp hc).1⟩
  | @invalid c =>
    refine Or.inr ⟨.invalidCharacter c, rfl, rfl, fun message => ⟨fun hc => ?_, ?_⟩⟩
    · cases hc; rfl
    · rintro rfl; exact .invalid
  | openComment =>
    refine Or.inr ⟨.unclosedComment, rfl, rfl, fun message => ⟨fun hc => ?_, ?_⟩⟩
    · cases hc; rfl
    · rintro rfl; exact .openComment
  | openString | openEscape =>
    refine Or.inr ⟨.unclosedString, rfl, rfl, fun message => ⟨fun hc => ?_, ?_⟩⟩
    · cases hc; rfl
    · rintro rfl; exact .openString
  | openChar | emptyChar | emptyEscape =>
    refine Or.inr ⟨.unclosedCharacter, rfl, rfl, fun message => ⟨fun hc => ?_, ?_⟩⟩
    · cases hc; rfl
    · rintro rfl; exact .openChar
  | _ => exact Or.inl ⟨rfl, fun message hc => nomatch hc⟩

theorem eq_of_mem_numberProblems {lexeme : String} {p : Problem}
    (h : p ∈ numberProblems limit lexeme) :
    p = .fractionTooLong limit lexeme ∨ p = .invalidExponent lexeme :=
  (List.mem_append.mp h).imp (fun hp => List.mem_singleton.mp (List.mem_ite_nil_right.mp hp).2)
    fun hp => List.mem_singleton.mp (List.mem_ite_nil_right.mp hp).2

theorem Segment.kind_of_mem_problems {s : Segment} {p : Problem} (h : p ∈ s.problems limit) :
    p.kind = .lexical := by
  obtain ⟨shape, text⟩ := s
  cases shape with
  | number =>
    rcases eq_of_mem_numberProblems h with rfl | rfl <;> rfl
  | invalid =>
    obtain ⟨c, -, rfl⟩ := List.mem_map.mp h
    rfl
  | blockComment closed | string _ closed | char _ closed =>
    cases closed with
    | false => rw [List.mem_singleton.mp h]; rfl
    | true => cases h
  | _ => cases h

/-! ### All segments -/

theorem exists_segment_of_mem : ∀ {segs : List Segment} {line : Int} {f : Finding},
    f ∈ findingsFrom limit line segs → line ≤ f.line ∧ ∃ s ∈ segs, f.problem ∈ s.problems limit
  | s :: segs, line, f, h => by
    rcases List.mem_append.mp h with h | h
    · obtain ⟨p, hp, rfl⟩ := List.mem_map.mp h
      exact ⟨Int.le_refl _, s, List.mem_cons_self, hp⟩
    · obtain ⟨hle, s', hs', hp⟩ := exists_segment_of_mem h
      exact ⟨by omega, s', List.mem_cons_of_mem s hs', hp⟩

theorem reports_nil_iff {before : List Char} {rs : List Record} :
    Reports limit before [] rs ↔ rs = [] :=
  ⟨fun h => by cases h; rfl, fun h => h ▸ .nil⟩

theorem reports_cons_of_silent {before : List Char} {s : Segment} {segs : List Segment}
    {rs : List Record} (h : ∀ message, ¬ s.Complaint limit message) :
    Reports limit before (s :: segs) rs ↔ Reports limit (before ++ s.text) segs rs := by
  refine ⟨fun hr => ?_, .silent h⟩
  cases hr with
  | silent _ hr => exact hr
  | report hc _ => exact absurd hc (h _)

theorem reports_cons_of_complaint {before : List Char} {s : Segment} {segs : List Segment}
    {rs : List Record} {m : String} (h : ∀ message, s.Complaint limit message ↔ message = m) :
    Reports limit before (s :: segs) rs ↔ ∃ later,
      rs = ⟨.lexical, some (1 + before.count '\n'), m⟩ :: later ∧
        Reports limit (before ++ s.text) segs later := by
  constructor
  · intro hr
    cases hr with
    | silent hn _ => exact absurd ((h m).mpr rfl) (hn m)
    | report hc hr => obtain rfl := (h _).mp hc; exact ⟨_, rfl, hr⟩
  · rintro ⟨later, rfl, hr⟩
    exact .report ((h m).mpr rfl) hr

/-- **The records on the segments of a text are those of the lexical findings.** -/
theorem reports_iff {text : List Char} {segs : List Segment} (h : Segmentation text segs) :
    ∀ {before : List Char} {rs : List Record}, Reports limit before segs rs ↔
      rs = (findingsFrom limit (1 + before.count '\n') segs).map Finding.record := by
  induction h with
  | nil => exact reports_nil_iff
  | cons hs _ ih =>
    intro before rs
    rw [findingsFrom, line_append]
    rcases hs.problems_cases limit with ⟨hp, hc⟩ | ⟨p, hp, hk, hc⟩
    · rw [reports_cons_of_silent hc, ih, hp]; rfl
    · have hrecord : (⟨.lexical, some (1 + before.count '\n'), p.message⟩ : Record) =
          Finding.record ⟨1 + before.count '\n', p⟩ := by rw [Finding.record, hk]
      rw [reports_cons_of_complaint hc, hp]
      constructor
      · rintro ⟨later, rfl, hr⟩; rw [hrecord, ih.mp hr]; rfl
      · rintro rfl; exact ⟨_, by rw [hrecord]; rfl, ih.mpr rfl⟩

namespace Reports

variable {before : List Char} {segs : List Segment} {rs : List Record}

/-- **The lines never decrease**, and none is above the place where the segments start. -/
theorem lines_sorted (h : Reports limit before segs rs) : ∃ lines : List Int,
    rs.map Record.line = lines.map some ∧ (∀ n ∈ lines, 1 + before.count '\n' ≤ n) ∧
      lines.Pairwise (· ≤ ·) := by
  induction h with
  | nil => exact ⟨[], rfl, by simp, .nil⟩
  | @silent before s segs rs _ _ ih =>
    obtain ⟨lines, hl, hle, hp⟩ := ih
    rw [← line_append] at hle
    exact ⟨lines, hl, fun n hn => by have := hle n hn; omega, hp⟩
  | @report before s segs rs message _ _ ih =>
    obtain ⟨lines, hl, hle, hp⟩ := ih
    rw [← line_append] at hle
    have hle' : ∀ n ∈ lines, 1 + before.count '\n' ≤ n := fun n hn => by
      have := hle n hn; omega
    refine ⟨(1 + before.count '\n') :: lines, by rw [List.map_cons, List.map_cons, hl], ?_,
      .cons hle' hp⟩
    rintro n (_ | ⟨_, hn⟩)
    · exact Int.le_refl _
    · exact hle' n hn

theorem append_flatMap_text (before : List Char) (s : Segment) (segs : List Segment) :
    before ++ (s :: segs).flatMap Segment.text = before ++ s.text ++ segs.flatMap Segment.text := by
  rw [List.flatMap_cons, List.append_assoc]

/-- Every record is due to a segment, and the records around it to the segments around it. -/
theorem exists_of_append {earlier later : List Record} {r : Record}
    (h : Reports limit before segs rs) (hr : rs = earlier ++ r :: later) :
    ∃ segs₁ s segs₂, segs = segs₁ ++ s :: segs₂ ∧
      s.Complaint limit r.message ∧
      r.line = some (1 + (before ++ segs₁.flatMap Segment.text).count '\n' : Int) ∧
      Reports limit (before ++ segs₁.flatMap Segment.text ++ s.text) segs₂ later := by
  induction h generalizing earlier with
  | nil => exact absurd hr.symm (by simp)
  | @silent before s segs rs _ _ ih =>
    obtain ⟨segs₁, s', segs₂, rfl, hc, hl, hrest⟩ := ih hr
    rw [← append_flatMap_text] at hl hrest
    exact ⟨s :: segs₁, s', segs₂, rfl, hc, hl, hrest⟩
  | @report before s segs rs message hm hseg ih =>
    rcases earlier with _ | ⟨r', earlier⟩
    · obtain ⟨rfl, rfl⟩ := List.cons.inj hr
      exact ⟨[], s, segs, rfl, hm, by simp, by simpa using hseg⟩
    · obtain ⟨segs₁, s', segs₂, rfl, hc, hl, hrest⟩ := ih (List.cons.inj hr).2
      rw [← append_flatMap_text] at hl hrest
      exact ⟨s :: segs₁, s', segs₂, rfl, hc, hl, hrest⟩

end Reports

/-! ### Open comments and strings -/

theorem Segment.Heads.rest_eq_nil_of_isOpen {s : Segment} {rest : List Char} (h : s.Heads rest)
    (ho : s.IsOpen) : rest = [] := by
  obtain ⟨r, -, ht⟩ := h
  cases ht with
  | openComment | openString | openEscape | emptyChar | emptyEscape => rfl
  | _ => rcases ho with ho | ⟨value, ho⟩ <;> cases ho

theorem Segment.Complaint.isOpen {s : Segment} {message : String} (h : s.Complaint limit message)
    (hm : message ∈ ["Unclosed multi-line comment", "Unclosed string literal"]) : s.IsOpen := by
  -- every message is that of a problem, and a message of fixed wording tells its problem
  have htell : ∀ q : Problem, q.message = message → q = .unclosedComment ∨ q = .unclosedString := by
    intro q hq
    rw [List.mem_cons, List.mem_singleton] at hm
    rcases hm with rfl | rfl
    · exact Or.inl ((Problem.message_eq_iff_of_fixed (p := .unclosedComment) (by decide)).mp hq)
    · exact Or.inr ((Problem.message_eq_iff_of_fixed (p := .unclosedString) (by decide)).mp hq)
  cases h with
  | @invalid c => have := htell (.invalidCharacter c) rfl; simp at this
  | openComment => exact Or.inl rfl
  | openString => exact Or.inr ⟨_, rfl⟩
  | openChar => have := htell .unclosedCharacter rfl; simp at this
  | @longFraction text =>
    have := htell (.fractionTooLong limit (String.ofList text)) rfl
    simp at this

theorem Segmentation.exists_suffix {text : List Char} {segs₁ segs₂ : List Segment}
    (h : Segmentation text (segs₁ ++ segs₂)) : ∃ rest, Segmentation rest segs₂ := by
  induction segs₁ generalizing text with
  | nil => exact ⟨text, h⟩
  | cons s segs₁ ih =>
    cases h with
    | cons _ h => exact ih h

theorem exists_tokensFrom_append : ∀ (segs₁ segs₂ : List Segment) (line : Int), ∃ tokens line',
    line' = line + lineBreaks (segs₁.flatMap Segment.text) ∧
      tokensFrom line segs₁ = tokens ++ [⟨.endOfInput, "", line'⟩] ∧
      tokensFrom line (segs₁ ++ segs₂) = tokens ++ tokensFrom line' segs₂
  | [], segs₂, line => ⟨[], line, by simp [lineBreaks], rfl, rfl⟩
  | s :: segs₁, segs₂, line => by
    obtain ⟨tokens, line', hl, h₁, h₂⟩ :=
      exists_tokensFrom_append segs₁ segs₂ (line + lineBreaks s.text)
    refine ⟨(s.token? line).toList ++ tokens, line', ?_, ?_, ?_⟩
    · rw [hl, List.flatMap_cons, lineBreaks_append]; omega
    · rw [tokensFrom, h₁, List.append_assoc]
    · rw [List.cons_append, tokensFrom, h₂, List.append_assoc]

/-- **A record on an open comment or string literal is the last one**, its segment is the last one,
and no token comes after it. -/
theorem Reports.last_of_isOpen {text : List Char} {segs : List Segment}
    {earlier later : List Record} {r : Record} (hseg : Segmentation text segs)
    (h : Reports limit [] segs (earlier ++ r :: later))
    (hm : r.message ∈ ["Unclosed multi-line comment", "Unclosed string literal"]) :
    later = [] ∧ ∃ segs₁ s tokens line, segs = segs₁ ++ [s] ∧ s.Complaint limit r.message ∧
      r.line = some line ∧ tokensFrom 1 segs₁ = tokens ++ [⟨.endOfInput, "", line⟩] ∧
      tokensFrom 1 segs = tokens ++ (s.token? line).toList ++
        [⟨.endOfInput, "", line + lineBreaks s.text⟩] := by
  obtain ⟨segs₁, s, segs₂, rfl, hc, hl, hrest⟩ := h.exists_of_append rfl
  obtain ⟨_, hsuffix⟩ := hseg.exists_suffix
  obtain rfl : segs₂ = [] := by
    cases hsuffix with
    | cons hs h' =>
      obtain rfl := hs.rest_eq_nil_of_isOpen (hc.isOpen hm)
      rw [h'.eq_segments, segments]
  obtain ⟨tokens, line, hline, h₁, h₂⟩ := exists_tokensFrom_append segs₁ [s] 1
  refine ⟨reports_nil_iff.mp hrest, segs₁, s, tokens, line, rfl, hc, ?_, h₁, ?_⟩
  · rw [hl, hline]; rfl
  · rw [h₂, List.append_assoc]; rfl

/-- **The lexical diagnostics are sound and complete.** There is one and only one way to cut a
program text by the order of the scan, and the records reported on the text are those on its
segments in order: one on every invalid character, open comment, open literal and long fraction, and
none on any other segment, each on the line on which its segment starts. So the lines never
decrease. A record on an open comment or string literal is the last one. Its segment is the last one
as well: there is no token after it but the end of input. -/
theorem lexical_records_of_segments (limit : Int) (source : String) :
    ∃ segs, Segmentation source.toList segs ∧
      (∀ segs', Segmentation source.toList segs' → segs' = segs) ∧
      (∀ rs, Reports limit [] segs rs ↔ rs = (lexicalFindings limit source).map Finding.record) ∧
      (∃ lines : List Int, ((lexicalFindings limit source).map Finding.record).map Record.line =
        lines.map some ∧ lines.Pairwise (· ≤ ·)) ∧
      ∀ earlier r later,
        (lexicalFindings limit source).map Finding.record = earlier ++ r :: later →
        r.message ∈ ["Unclosed multi-line comment", "Unclosed string literal"] →
        later = [] ∧ ∃ segs₁ s tokens line, segs = segs₁ ++ [s] ∧ s.Complaint limit r.message ∧
          r.line = some line ∧ Tokenizes [] segs₁ (tokens ++ [⟨.endOfInput, "", line⟩]) ∧
          tokenize source = tokens ++ (s.token? line).toList ++
            [⟨.endOfInput, "", line + lineBreaks s.text⟩] := by
  have hseg := segmentation_segments source.toList
  have hreports : ∀ rs, Reports limit [] (segments source.toList) rs ↔
      rs = (lexicalFindings limit source).map Finding.record := fun _ => reports_iff hseg
  refine ⟨_, hseg, fun _ h => h.eq_segments, hreports, ?_, fun earlier r later hr hm => ?_⟩
  · obtain ⟨lines, hl, -, hp⟩ := ((hreports _).mpr rfl).lines_sorted
    exact ⟨lines, hl, hp⟩
  · obtain ⟨hlater, segs₁, s, tokens, line, he, hc, hline, h₁, h₂⟩ :=
      ((hreports _).mpr hr.symm).last_of_isOpen hseg hm
    exact ⟨hlater, segs₁, s, tokens, line, he, hc, hline, tokenizes_iff.mpr h₁.symm, h₂⟩

end BlockLang
