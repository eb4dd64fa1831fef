import BlockLang.Proofs.Lexing.Seam

/-! # Layout

Blanks and comments part the segments of a program text and are no part of the program. What stands
between two tokens can be any *layout*: blanks, and comments that have their end.

* `IsLayout`: a text made of blanks and comments. Wherever it stands, it is cut into segments of its
  own (`IsLayout.exists_segments`), which are no tokens, have no problems, and count only as line
  breaks (`SameReading.of_layout`).
* `IsGap`: a text is scanned as a run of blanks and comments between two others.
* `SameReading`: two lists of segments give the same tokens and findings. Texts whose segments do
  have the same outcome (`SameReading.check_eq`).
* `blanked`: a text with blanks in place of everything but its line breaks.

Layout that starts with a blank can stand in the place of other layout: no segment before it reaches
into it (`Segmentation.before_blank`), and segments look only at what comes behind them, so those
behind it stay what they are (`check_replace_layout`). -/

namespace BlockLang

/-! ### Layout -/

/-- A line comment, or a block comment that has its end. -/
def Segment.IsClosedComment (s : Segment) : Prop :=
  s.shape = .lineComment ∨ s.shape = .blockComment true

/-- A blank or a comment that has its end. -/
def Segment.IsLayout (s : Segment) : Prop := s.shape = .blank ∨ s.IsClosedComment

instance (s : Segment) : Decidable s.IsLayout := by
  unfold Segment.IsLayout Segment.IsClosedComment; infer_instance

/-- **A text made of blanks and comments.** A line comment comes with its line break, and a block
comment ends at the first `*/` after its opening. -/
inductive IsLayout : List Char → Prop
  | nil : IsLayout []
  | blank {c : Char} {text : List Char} : Text.isBlank c = true → IsLayout text →
      IsLayout (c :: text)
  | lineComment {body text : List Char} : '\n' ∉ body → IsLayout text →
      IsLayout ('/' :: '/' :: (body ++ '\n' :: text))
  | blockComment {body text : List Char} : ¬ ['*', '/'] <:+: body ++ ['*'] → IsLayout text →
      IsLayout ('/' :: '*' :: (body ++ '*' :: '/' :: text))

/-- **The scan of `u ++ w ++ v` takes `w` as a run of blanks and comments** that is as long as it can
be: no blank or comment with its end comes before it or behind it. -/
def IsGap (u w v : List Char) : Prop :=
  ∃ before gap after, Segmentation (u ++ w ++ v) (before ++ (gap ++ after)) ∧
    before.flatMap Segment.text = u ∧ gap.flatMap Segment.text = w ∧ (∀ s ∈ gap, s.IsLayout) ∧
    (∀ s ∈ before.getLast?, ¬ s.IsLayout) ∧ ∀ s ∈ after.head?, ¬ s.IsLayout

/-- A text with a blank in place of every character but the line breaks. -/
def blanked (text : List Char) : List Char := text.map fun c => if c = '\n' then '\n' else ' '

theorem Segment.IsLayout.isSkipped {s : Segment} (h : s.IsLayout) : s.IsSkipped :=
  h.imp_right (Or.imp_right fun hs => Or.inl ⟨true, hs⟩)

theorem Segment.IsLayout.problems_eq_nil {s : Segment} (h : s.IsLayout) (limit : Int) :
    s.problems limit = [] := by
  rcases h with h | h | h <;> rw [Segment.problems, h]

theorem IsLayout.tail {b : Char} {text : List Char} (h : IsLayout (b :: text))
    (hb : Text.isBlank b = true) : IsLayout text := by
  cases h with
  | blank _ h => exact h
  | lineComment | blockComment => cases hb

theorem heads_comment {s : Segment} {rest : List Char} (h : ScanRule.comment.Takes s rest) :
    s.Heads rest := by
  have hnone : ∀ r ∈ ScanRule.order, r.Precedes .comment → ¬ r.Starts '/' := by decide
  cases h with
  | lineComment hbody hrest =>
    exact heads_of_takes (r := .comment) rfl (Or.inl ⟨_, rfl⟩) (.lineComment hbody hrest) hnone
  | blockComment hbody =>
    exact heads_of_takes (r := .comment) rfl (Or.inr ⟨_, rfl⟩) (.blockComment hbody) hnone
  | openComment hbody =>
    exact heads_of_takes (r := .comment) rfl (Or.inr ⟨_, rfl⟩) (.openComment hbody) hnone

/-- **Layout is cut into segments of its own**, whatever comes behind it. -/
theorem IsLayout.exists_segments {text : List Char} (h : IsLayout text) :
    ∃ gap : List Segment, (∀ s ∈ gap, s.IsLayout) ∧ gap.flatMap Segment.text = text ∧
      ∀ {rest : List Char} {after : List Segment}, Segmentation rest after →
        Segmentation (text ++ rest) (gap ++ after) := by
  induction h with
  | nil => exact ⟨[], by simp, rfl, id⟩
  | @blank c _ hc _ ih =>
    obtain ⟨gap, hgap, rfl, hseg⟩ := ih
    refine ⟨⟨.blank, [c]⟩ :: gap, ?_, rfl, fun h => .cons (heads_blank hc _) (hseg h)⟩
    exact List.forall_mem_cons.mpr ⟨Or.inl rfl, hgap⟩
  | @lineComment body _ hbody _ ih =>
    obtain ⟨gap, hgap, rfl, hseg⟩ := ih
    refine ⟨⟨.lineComment, '/' :: '/' :: body⟩ :: ⟨.blank, ['\n']⟩ :: gap, ?_, ?_, fun {rest} _ h => ?_⟩
    · exact List.forall_mem_cons.mpr
        ⟨Or.inr (Or.inl rfl), List.forall_mem_cons.mpr ⟨Or.inl rfl, hgap⟩⟩
    · simp
    · have hcomment : Segment.Heads ⟨.lineComment, '/' :: '/' :: body⟩
          ('\n' :: (gap.flatMap Segment.text ++ rest)) :=
        heads_comment (.lineComment hbody (by simp))
      have hwhole := Segmentation.cons hcomment (.cons (heads_blank (by decide) _) (hseg h))
      simpa using hwhole
  | @blockComment body _ hbody _ ih =>
    obtain ⟨gap, hgap, rfl, hseg⟩ := ih
    refine ⟨⟨.blockComment true, '/' :: '*' :: (body ++ ['*', '/'])⟩ :: gap, ?_, ?_,
      fun {rest} _ h => ?_⟩
    · exact List.forall_mem_cons.mpr ⟨Or.inr (Or.inr rfl), hgap⟩
    · simp
    · have hcomment : Segment.Heads ⟨.blockComment true, '/' :: '*' :: (body ++ ['*', '/'])⟩
          (gap.flatMap Segment.text ++ rest) :=
        heads_comment (.blockComment hbody)
      simpa using Segmentation.cons hcomment (hseg h)

/-! ### The same reading -/

/-- Two lists of segments give the same tokens and findings, on whatever line they start. -/
structure SameReading (segs segs' : List Segment) : Prop where
  tokens : ∀ line, tokensFrom line segs = tokensFrom line segs'
  findings : ∀ limit line, findingsFrom limit line segs = findingsFrom limit line segs'

namespace SameReading

variable {segs segs' segs'' : List Segment}

theorem trans (h : SameReading segs segs') (h' : SameReading segs' segs'') :
    SameReading segs segs'' :=
  ⟨fun line => (h.tokens line).trans (h'.tokens line),
    fun limit line => (h.findings limit line).trans (h'.findings limit line)⟩

theorem cons {s s' : Segment} (hc : s.content? = s'.content?)
    (hp : ∀ limit, s.problems limit = s'.problems limit)
    (hl : lineBreaks s.text = lineBreaks s'.text) (h : SameReading segs segs') :
    SameReading (s :: segs) (s' :: segs') := by
  refine ⟨fun line => ?_, fun limit line => ?_⟩
  · rw [tokensFrom, tokensFrom, Segment.token?, Segment.token?, hc, hl, h.tokens]
  · rw [findingsFrom, findingsFrom, hp, hl, h.findings]

theorem append_left (h : SameReading segs segs') :
    ∀ before : List Segment, SameReading (before ++ segs) (before ++ segs')
  | [] => h
  | _ :: before => cons rfl (fun _ => rfl) rfl (h.append_left before)

/-- **A program is read by its segments alone.** -/
theorem check_eq {source source' : String}
    (h : SameReading (segments source.toList) (segments source'.toList)) (options : Options)
    (filename : String) : check options source filename = check options source' filename := by
  have ht : tokenize source = tokenize source' := h.tokens 1
  have hf : lexicalFindings options.maxFractionDigits source =
      lexicalFindings options.maxFractionDigits source' := h.findings _ 1
  rw [check, check, checkStatements, checkStatements, ht, hf]

end SameReading

theorem tokensFrom_append_of_layout {after : List Segment} : ∀ {gap : List Segment},
    (∀ s ∈ gap, s.IsLayout) → ∀ line, tokensFrom line (gap ++ after) =
      tokensFrom (line + lineBreaks (gap.flatMap Segment.text)) after
  | [], _, line => by simp [lineBreaks]
  | s :: gap, h, line => by
    obtain ⟨hs, hgap⟩ := List.forall_mem_cons.mp h
    have hline : line + lineBreaks s.text + lineBreaks (gap.flatMap Segment.text) =
        line + lineBreaks ((s :: gap).flatMap Segment.text) := by
      rw [List.flatMap_cons, lineBreaks_append]; omega
    rw [List.cons_append, tokensFrom_cons_of_skipped hs.isSkipped,
      tokensFrom_append_of_layout hgap, hline]

theorem findingsFrom_of_layout {limit : Int} : ∀ {gap : List Segment}, (∀ s ∈ gap, s.IsLayout) →
    ∀ line, findingsFrom limit line gap = []
  | [], _, _ => rfl
  | s :: gap, h, line => by
    obtain ⟨hs, hgap⟩ := List.forall_mem_cons.mp h
    rw [findingsFrom, hs.problems_eq_nil, findingsFrom_of_layout hgap]
    rfl

/-- **Layouts with as many line breaks read the same.** -/
theorem SameReading.of_layout {gap gap' : List Segment} (hgap : ∀ s ∈ gap, s.IsLayout)
    (hgap' : ∀ s ∈ gap', s.IsLayout)
    (hlines : lineBreaks (gap.flatMap Segment.text) = lineBreaks (gap'.flatMap Segment.text))
    (after : List Segment) : SameReading (gap ++ after) (gap' ++ after) := by
  refine ⟨fun line => ?_, fun limit line => ?_⟩
  · rw [tokensFrom_append_of_layout hgap, tokensFrom_append_of_layout hgap', hlines]
  · rw [findingsFrom_append, findingsFrom_append, findingsFrom_of_layout hgap,
      findingsFrom_of_layout hgap', hlines]

/-! ### Other layout -/

theorem Segmentation.flatMap_text {text : List Char} {segs : List Segment}
    (h : Segmentation text segs) : segs.flatMap Segment.text = text := by
  rw [h.eq_segments, flatMap_text_segments]

/-- Layout that starts with a blank can stand where a text has other layout with as many line
breaks. A line comment in front of it must end there, and nothing in front of it may be unclosed. -/
theorem check_replace_layout (options : Options) (filename : String) {source : String}
    {before gap after : List Segment} {b : Char} {more : List Char}
    (h : Segmentation source.toList (before ++ (gap ++ after))) (hgap : ∀ s ∈ gap, s.IsLayout)
    (hlast : ∀ s ∈ before.getLast?, (s.shape = .lineComment → b = '\n') ∧
      ((gap ++ after).flatMap Segment.text = [] → ¬ s.Unclosed))
    (hb : Text.isBlank b = true) (hmore : IsLayout (b :: more))
    (hlines : lineBreaks (b :: more) = lineBreaks (gap.flatMap Segment.text)) :
    check options (String.ofList (before.flatMap Segment.text ++
      (b :: more ++ after.flatMap Segment.text))) filename = check options source filename := by
  obtain ⟨gap', hgap', rfl, hseg⟩ := (hmore.tail hb).exists_segments
  have hafter : Segmentation (after.flatMap Segment.text) after := by
    obtain ⟨_, hs⟩ := h.exists_suffix
    obtain ⟨_, hs⟩ := hs.exists_suffix
    rwa [hs.flatMap_text]
  have hblank : ∀ s ∈ ⟨.blank, [b]⟩ :: gap', s.IsLayout :=
    List.forall_mem_cons.mpr ⟨Or.inl rfl, hgap'⟩
  have htext : source.toList = before.flatMap Segment.text ++ (gap ++ after).flatMap Segment.text := by
    rw [← List.flatMap_append, h.flatMap_text]
  -- the text with the other layout has the segments before, the other layout, and those behind
  have hwhole := (h.before_blank htext hb (hseg hafter) hlast).eq_segments
  have hread : SameReading (before ++ (⟨.blank, [b]⟩ :: gap' ++ after)) (before ++ (gap ++ after)) :=
    (SameReading.of_layout hblank hgap hlines after).append_left before
  rw [List.cons_append, hwhole, h.eq_segments] at hread
  refine SameReading.check_eq ?_ options filename
  rw [String.toList_ofList]
  exact hread

/-! ### Blanked comments -/

theorem isBlank_of_mem_blanked {text : List Char} : ∀ c ∈ blanked text, Text.isBlank c = true := by
  intro c hc
  obtain ⟨d, -, rfl⟩ := List.mem_map.mp hc
  split <;> rfl

theorem isLayout_of_blanks : ∀ {text : List Char}, (∀ c ∈ text, Text.isBlank c = true) →
    IsLayout text
  | [], _ => .nil
  | c :: text, h => by
    obtain ⟨hc, htext⟩ := List.forall_mem_cons.mp h
    exact .blank hc (isLayout_of_blanks htext)

theorem lineBreaks_blanked : ∀ text : List Char, lineBreaks (blanked text) = lineBreaks text
  | [] => rfl
  | c :: text => by
    have hc : lineBreaks [if c = '\n' then '\n' else ' '] = lineBreaks [c] := by
      by_cases h : c = '\n' <;> simp [lineBreaks, h]
    rw [blanked, List.map_cons, ← blanked, ← List.singleton_append, lineBreaks_append, hc,
      lineBreaks_blanked text, ← lineBreaks_append]
    rfl

theorem Segmentation.heads_of_getLast? {text : List Char} {before tail : List Segment}
    (h : Segmentation text (before ++ tail)) {s : Segment} (hs : s ∈ before.getLast?) :
    s.Heads (tail.flatMap Segment.text) := by
  obtain ⟨init, rfl⟩ := List.getLast?_eq_some_iff.mp hs
  rw [List.append_assoc, List.singleton_append] at h
  obtain ⟨_, hsuffix⟩ := h.exists_suffix
  obtain ⟨rest, -, hhead, hrest⟩ := hsuffix.exists_of_cons
  rwa [hrest.flatMap_text]

theorem Segment.Heads.head?_of_lineComment {s : Segment} {rest : List Char} (h : s.Heads rest)
    (hs : s.shape = .lineComment) : ∀ c ∈ rest.head?, c = '\n' := by
  obtain ⟨r, -, ht⟩ := h
  cases ht with
  | lineComment _ hr => exact hr
  | _ => cases hs

theorem Segment.Heads.exists_cons_of_isClosedComment {s : Segment} {rest : List Char}
    (h : s.Heads rest) (hs : s.IsClosedComment) : ∃ cs, s.text = '/' :: cs := by
  obtain ⟨r, -, ht⟩ := h
  cases ht with
  | lineComment | blockComment => exact ⟨_, rfl⟩
  | _ => rcases hs with hs | hs <;> cases hs

/-- **Layout does not matter.** What stands in a program text as a run of blanks and comments can be
any other layout that starts with a blank and has as many line breaks: the tokens, the symbols and
the findings are the same. If the run is empty and nothing comes behind it, what is in front of it
may not be unclosed, since the blank would go inside. So blanking out a comment changes nothing. -/
theorem layout_independence (options : Options) (filename : String) :
    (∀ u w w' v : String, IsGap u.toList w.toList v.toList →
      (w = "" → v = "" → ∀ s ∈ (segments u.toList).getLast?, ¬ s.Unclosed) →
      IsLayout w'.toList → (∃ b ∈ w'.toList.head?, Text.isBlank b = true) →
      w'.toList.count '\n' = w.toList.count '\n' →
      check options (u ++ w' ++ v) filename = check options (u ++ w ++ v) filename) ∧
    ∀ (source : String) (before after : List Segment) (comment : Segment),
      Segmentation source.toList (before ++ comment :: after) → comment.IsClosedComment →
      check options (String.ofList (before.flatMap Segment.text ++
        (blanked comment.text ++ after.flatMap Segment.text))) filename =
        check options source filename := by
  constructor
  · rintro u w w' v ⟨before, gap, after, hseg, hu, hw, hgap, hbefore, -⟩ hopen hlayout ⟨b, hb, hblank⟩
      hlines
    obtain ⟨more, hmore⟩ := List.head?_eq_some_iff.mp hb
    have hv : after.flatMap Segment.text = v.toList := by
      have htext := hseg.flatMap_text
      rw [List.flatMap_append, List.flatMap_append, hu, hw, ← List.append_assoc] at htext
      exact List.append_cancel_left htext
    have hsource : (u ++ w ++ v).toList = u.toList ++ w.toList ++ v.toList := by
      rw [String.toList_append, String.toList_append]
    have hresult : u ++ w' ++ v =
        String.ofList (before.flatMap Segment.text ++ (b :: more ++ after.flatMap Segment.text)) := by
      rw [hu, hv, ← hmore, ← List.append_assoc, ← String.toList_append, ← String.toList_append,
        String.ofList_toList]
    rw [hmore] at hlayout hlines
    rw [← hsource] at hseg
    rw [hresult]
    refine check_replace_layout options filename hseg hgap (fun s hs => ⟨fun hline => ?_, fun hnil => ?_⟩)
      hblank hlayout (by rw [hw]; exact hlines)
    · exact absurd (Or.inr (Or.inl hline)) (hbefore s hs)
    · -- the text in front is the whole text
      obtain ⟨_, hsuffix⟩ := hseg.exists_suffix
      rw [← List.append_nil (gap ++ after)] at hsuffix
      rw [hsuffix.eq_nil_of_flatMap hnil, List.append_nil] at hseg
      rw [List.flatMap_append, hw, hv, List.append_eq_nil_iff, String.toList_eq_nil_iff,
        String.toList_eq_nil_iff] at hnil
      obtain ⟨rfl, rfl⟩ := hnil
      rw [String.append_empty, String.append_empty] at hseg
      exact hopen rfl rfl s (hseg.eq_segments ▸ hs)
  · intro source before after comment hseg hcomment
    obtain ⟨_, hsuffix⟩ := hseg.exists_suffix
    obtain ⟨_, -, hheads, -⟩ := hsuffix.exists_of_cons
    obtain ⟨cs, hcs⟩ := hheads.exists_cons_of_isClosedComment hcomment
    have hblanked : blanked comment.text = ' ' :: blanked cs := by rw [hcs]; rfl
    have hlayout : IsLayout (blanked comment.text) := isLayout_of_blanks isBlank_of_mem_blanked
    have hlines : lineBreaks (blanked comment.text) =
        lineBreaks (List.flatMap Segment.text [comment]) := by
      rw [lineBreaks_blanked, List.flatMap_singleton]
    rw [hblanked] at hlayout hlines ⊢
    have hgap : Segmentation source.toList (before ++ ([comment] ++ after)) := hseg
    refine check_replace_layout options filename hgap
      (List.forall_mem_singleton.mpr (Or.inr hcomment)) (fun s hs => ?_) rfl hlayout hlines
    have hlast := hseg.heads_of_getLast? hs
    rw [List.flatMap_cons, hcs] at hlast
    refine ⟨fun hline => ?_, fun hnil => ?_⟩
    · exact absurd (hlast.head?_of_lineComment hline '/' rfl) (by decide)
    · rw [List.singleton_append, List.flatMap_cons, hcs] at hnil
      cases hnil

/-- Behind a number that would go on with what comes after the comments. -/
theorem layout_independence_of_exponent :
    IsGap "2".toList "/*\"\n*/ //*\n".toList "E5'".toList ∧
      IsLayout "\t//'\n/***/\n".toList ∧
      check {} ("2" ++ "\t//'\n/***/\n" ++ "E5'") "p" =
        check {} ("2" ++ "/*\"\n*/ //*\n" ++ "E5'") "p" ∧
      check {} "2   \n   //*\nE5'" "p" = check {} "2/*\"\n*/ //*\nE5'" "p" ∧
      (check {} ("2" ++ "/*\"\n*/ //*\n" ++ "E5'") "p").tokens =
        [⟨.number, "2", 1⟩, ⟨.number, "5", 3⟩, ⟨.char, "", 3⟩, ⟨.endOfInput, "", 3⟩] := by
  have hseg : Segmentation "2/*\"\n*/ //*\nE5'".toList ([⟨.number, ['2']⟩] ++
      ⟨.blockComment true, "/*\"\n*/".toList⟩ :: [⟨.blank, [' ']⟩, ⟨.lineComment, "//*".toList⟩,
        ⟨.blank, ['\n']⟩, ⟨.invalid, ['E']⟩, ⟨.number, ['5']⟩, ⟨.char [] false, ['\'']⟩]) :=
    segmentation_iff.mpr (by decide +kernel)
  have hgap : IsGap "2".toList "/*\"\n*/ //*\n".toList "E5'".toList :=
    ⟨[⟨.number, ['2']⟩], [⟨.blockComment true, "/*\"\n*/".toList⟩, ⟨.blank, [' ']⟩,
      ⟨.lineComment, "//*".toList⟩, ⟨.blank, ['\n']⟩],
      [⟨.invalid, ['E']⟩, ⟨.number, ['5']⟩, ⟨.char [] false, ['\'']⟩], hseg, by decide, by decide,
      by decide, by decide, by decide⟩
  have hlayout : IsLayout "\t//'\n/***/\n".toList := by
    have htext : "\t//'\n/***/\n".toList = '\t' :: '/' :: '/' :: (['\''] ++ '\n' ::
      '/' :: '*' :: (['*'] ++ '*' :: '/' :: '\n' :: [])) := by decide
    rw [htext]
    exact .blank rfl (.lineComment (by decide) (.blockComment (by decide) (.blank rfl .nil)))
  refine ⟨hgap, hlayout, ?_, ?_, by decide +kernel⟩
  · exact (layout_independence {} "p").1 _ _ _ _ hgap (fun h => absurd h (by decide)) hlayout
      ⟨'\t', by decide, by decide⟩ (by decide)
  · have hblanked : String.ofList ([⟨.number, ['2']⟩].flatMap Segment.text ++
        (blanked "/*\"\n*/".toList ++ [⟨.blank, [' ']⟩, ⟨.lineComment, "//*".toList⟩,
          ⟨.blank, ['\n']⟩, ⟨.invalid, ['E']⟩, ⟨.number, ['5']⟩,
          ⟨.char [] false, ['\'']⟩].flatMap Segment.text)) = "2   \n   //*\nE5'" := by
      decide
    have h := (layout_independence {} "p").2 _ _ _ _ hseg (Or.inr rfl)
    rw [hblanked] at h
    exact h

/-- A blank behind a string without an end goes inside. -/
example : (check {} "\"a " "p").tokens ≠ (check {} "\"a" "p").tokens := by decide +kernel

end BlockLang
