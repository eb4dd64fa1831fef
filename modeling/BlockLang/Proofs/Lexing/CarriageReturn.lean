import BlockLang.Proofs.Lexing.Layout
import BlockLang.Text.LineEnding

/-! # Carriage returns in a program text

A carriage return before a line feed is a blank that counts no line. Where every carriage return is
one of these, turning line ends into line feeds is leaving carriage returns out
(`withLineFeeds_eq_withoutReturns`), and the scan of what is left takes the same segments, each
without its carriage returns (`Segmentation.exists_withoutReturns`):

* a carriage return between two tokens is a segment of its own, and is left out;
* a comment may lose some, and ends where it did: no `*` and `/` come together, since a line feed
  stays between them;
* every other segment has none. What follows it still starts with a blank where it did, so that the
  segment does not grow.

A literal that holds a carriage return is the exception: its value would change. -/

namespace BlockLang

namespace Text

/-- Every carriage return has a line feed right after it. -/
def ReturnsPaired (text : List Char) : Prop :=
  ∀ before after, text = before ++ '\r' :: after → after.head? = some '\n'

/-- A text without its carriage returns. -/
def withoutReturns (text : List Char) : List Char := text.filter (· ≠ '\r')

variable {text : List Char}

theorem returnsPaired_nil : ReturnsPaired [] := fun before after he => by simp at he

theorem returnsPaired_cons {c : Char} :
    ReturnsPaired (c :: text) ↔ (c = '\r' → text.head? = some '\n') ∧ ReturnsPaired text := by
  constructor
  · intro h
    exact ⟨fun hc => h [] text (by rw [hc]; rfl), fun before after he => h (c :: before) after
      (by rw [he]; rfl)⟩
  · rintro ⟨hc, h⟩ before after he
    rcases before with _ | ⟨d, before⟩
    · obtain ⟨rfl, rfl⟩ := List.cons.inj he
      exact hc rfl
    · exact h before after (List.cons.inj he).2

instance decidableReturnsPaired : ∀ text : List Char, Decidable (ReturnsPaired text)
  | [] => isTrue returnsPaired_nil
  | _ :: text =>
    have := decidableReturnsPaired text
    decidable_of_iff _ returnsPaired_cons.symm

theorem ReturnsPaired.of_append (before : List Char) (h : ReturnsPaired (before ++ text)) :
    ReturnsPaired text :=
  fun pre after he => h (before ++ pre) after (by rw [he, List.append_assoc])

theorem withoutReturns_append (text rest : List Char) :
    withoutReturns (text ++ rest) = withoutReturns text ++ withoutReturns rest := List.filter_append ..

theorem withoutReturns_of_notMem (h : '\r' ∉ text) : withoutReturns text = text :=
  List.filter_eq_self.mpr fun _ hc => decide_eq_true fun he => h (he ▸ hc)

/-- **Line feeds alone are what is left without the carriage returns.** -/
theorem withLineFeeds_eq_withoutReturns (h : ReturnsPaired text) :
    withLineFeeds text = withoutReturns text := by
  fun_induction withLineFeeds text with
  | case1 => rfl
  | case2 cs ih => rw [ih (h.of_append ['\r', '\n'])]; rfl
  | case3 c cs hc ih =>
    have hne : c ≠ '\r' := by
      rintro rfl
      obtain ⟨cs, rfl⟩ := List.head?_eq_some_iff.mp (h [] cs rfl)
      exact hc cs rfl rfl
    rw [if_neg hne, ih (h.of_append [c])]
    simp [withoutReturns, hne]

/-- Two characters that come together without the carriage returns did so before, unless the second
one is a line feed. -/
theorem infix_of_withoutReturns (before after : List Char) {c d : Char}
    (h : ReturnsPaired (before ++ (text ++ after))) (hd : d ≠ '\n')
    (hi : [c, d] <:+: withoutReturns text) : [c, d] <:+: text := by
  obtain ⟨l, r, he⟩ := hi
  rw [List.append_assoc] at he
  obtain ⟨l₁, l₂, rfl, -, he⟩ := List.filter_eq_append_iff.mp he.symm
  obtain ⟨m₁, m₂, rfl, -, -, he⟩ := List.filter_eq_cons_iff.mp he
  obtain ⟨n₁, n₂, rfl, hn₁, -, -⟩ := List.filter_eq_cons_iff.mp he
  rcases n₁ with _ | ⟨b, n₁⟩
  · exact ⟨l₁ ++ m₁, n₂, by simp⟩
  -- what has been left out between the two is a carriage return, but no line feed comes after it
  · obtain rfl : b = '\r' := by simpa using hn₁ b List.mem_cons_self
    have hnext := h (before ++ (l₁ ++ (m₁ ++ [c]))) (n₁ ++ d :: (n₂ ++ after)) (by simp)
    rcases n₁ with _ | ⟨b, n₁⟩
    · exact absurd (Option.some.inj hnext) hd
    · obtain rfl : b = '\r' := by simpa using hn₁ b (by simp)
      exact absurd (Option.some.inj hnext) (by decide)

end Text

open Text (ReturnsPaired withoutReturns)

/-! ### One segment -/

namespace Segment

/-- A string or character literal. -/
def IsLiteral (s : Segment) : Prop :=
  ∃ value closed, s.shape = .string value closed ∨ s.shape = .char value closed

/-- A segment without its carriage returns. -/
def withoutReturns (s : Segment) : Segment := ⟨s.shape, Text.withoutReturns s.text⟩

variable {s : Segment} {rest : List Char}

/-- What has a carriage return is the carriage return alone, a comment or a literal. -/
theorem Heads.cases_of_return (h : s.Heads rest) (hr : '\r' ∈ s.text) :
    s = ⟨.blank, ['\r']⟩ ∨ ScanRule.comment.Takes s rest ∨ s.IsLiteral := by
  have hword : ∀ {l : List Char}, (∀ c ∈ l, Text.isBlank c = false) → '\r' ∉ l :=
    fun hl hm => absurd (hl _ hm) (by decide)
  obtain ⟨r, ⟨-, hfirst⟩, ht⟩ := h
  cases ht with
  | blank => obtain rfl := List.mem_singleton.mp hr; exact Or.inl rfl
  | openBrace | closeBrace | semicolon => exact absurd hr (by decide)
  | lineComment hbody hrest => exact Or.inr (Or.inl (.lineComment hbody hrest))
  | blockComment hbody => exact Or.inr (Or.inl (.blockComment hbody))
  | openComment hbody => exact Or.inr (Or.inl (.openComment hbody))
  | string | openString | openEscape => exact Or.inr (Or.inr ⟨_, _, Or.inl rfl⟩)
  | char | openChar | emptyChar | emptyEscape => exact Or.inr (Or.inr ⟨_, _, Or.inr rfl⟩)
  | word hl => exact absurd hr (hword hl.mem.not_isBlank)
  | number hl => exact absurd hr (hword hl.mem.not_isBlank)
  | operator hl => exact absurd hr (hword hl.mem.not_isBlank)
  | invalid =>
    obtain rfl := List.mem_singleton.mp hr
    exact absurd (ScanRule.applies_blank.mpr (by decide)) (hfirst .blank (by decide))

theorem Heads.before_withoutReturns (h : s.Heads rest) (hp : ReturnsPaired rest) :
    s.Heads (Text.withoutReturns rest) := by
  by_cases hr : '\r' ∈ rest
  · obtain ⟨r, w, rfl, hn⟩ := List.eq_append_cons_of_mem hr
    obtain ⟨more, rfl⟩ := List.head?_eq_some_iff.mp (hp r w rfl)
    have hrest : Text.withoutReturns (r ++ '\r' :: '\n' :: more) =
        r ++ '\n' :: Text.withoutReturns more := by
      rw [Text.withoutReturns_append, Text.withoutReturns_of_notMem hn]; rfl
    rw [hrest]
    exact h.before_blank (by decide) (fun _ _ => rfl) (by simp) _
  · rwa [Text.withoutReturns_of_notMem hr]

theorem takes_withoutReturns (h : ScanRule.comment.Takes s rest)
    (hp : ReturnsPaired (s.text ++ rest)) :
    ScanRule.comment.Takes s.withoutReturns (Text.withoutReturns rest) := by
  cases h with
  | @lineComment body _ hbody hrest =>
    refine .lineComment (fun hm => hbody (List.mem_filter.mp hm).1) fun c hc => ?_
    rcases rest with _ | ⟨d, rest⟩
    · cases hc
    · obtain rfl := hrest d rfl
      exact (Option.some.inj hc).symm
  | @blockComment body _ hbody =>
    have htext : Text.withoutReturns ('/' :: '*' :: (body ++ ['*', '/'])) =
        '/' :: '*' :: (Text.withoutReturns body ++ ['*', '/']) := by
      rw [← List.cons_append, ← List.cons_append, Text.withoutReturns_append]; rfl
    rw [withoutReturns, htext]
    refine .blockComment fun hi => hbody ?_
    have hi' : ['*', '/'] <:+: Text.withoutReturns (body ++ ['*']) := by
      rw [Text.withoutReturns_append]; exact hi
    refine Text.infix_of_withoutReturns ['/', '*'] ('/' :: rest) ?_ (by decide) hi'
    simpa using hp
  | @openComment body hbody =>
    refine .openComment fun hi => hbody ?_
    exact Text.infix_of_withoutReturns ['/', '*'] [] (by simpa using hp) (by decide) hi

theorem lineBreaks_withoutReturns (s : Segment) :
    lineBreaks s.withoutReturns.text = lineBreaks s.text := List.count_filter (by decide)

end Segment

/-! ### All segments -/

/-- **The scan of a text without its carriage returns** takes the segments of the text, without
their carriage returns. -/
theorem Segmentation.exists_withoutReturns {text : List Char} {segs : List Segment}
    (h : Segmentation text segs) (hp : ReturnsPaired text)
    (hliteral : ∀ s ∈ segs, s.IsLiteral → '\r' ∉ s.text) :
    ∃ segs', Segmentation (withoutReturns text) segs' ∧ SameReading segs' segs := by
  induction h with
  | nil => exact ⟨[], .nil, fun _ => rfl, fun _ _ => rfl⟩
  | @cons s rest segs hs _ ih =>
    have hrest := hp.of_append s.text
    obtain ⟨hlit, hliterals⟩ := List.forall_mem_cons.mp hliteral
    obtain ⟨segs', hseg, hread⟩ := ih hrest hliterals
    rw [Text.withoutReturns_append]
    by_cases hr : '\r' ∈ s.text
    · rcases hs.cases_of_return hr with rfl | hcomment | hl
      · -- the carriage return is layout that has no line break
        have hlayout : ∀ s ∈ [(⟨.blank, ['\r']⟩ : Segment)], s.IsLayout := by decide
        exact ⟨segs', hseg, hread.trans (.of_layout (List.forall_mem_nil _) hlayout rfl segs)⟩
      · have hcut := Segmentation.cons (heads_comment (s.takes_withoutReturns hcomment hp)) hseg
        refine ⟨_, hcut, hread.cons ?_ (fun _ => ?_) s.lineBreaks_withoutReturns⟩
        · cases hcomment <;> rfl
        · cases hcomment <;> rfl
      · exact absurd hr (hlit hl)
    · rw [Text.withoutReturns_of_notMem hr]
      exact ⟨s :: segs', .cons (hs.before_withoutReturns hrest) hseg, hread.append_left [s]⟩

/-- **Line ends may be told by line feeds alone**, if no literal holds a carriage return. -/
theorem check_withLineFeeds (options : Options) (filename : String) {source : String}
    (hp : ReturnsPaired source.toList)
    (hliteral : ∀ s ∈ segments source.toList, s.IsLiteral → '\r' ∉ s.text) :
    check options (String.ofList (Text.withLineFeeds source.toList)) filename =
      check options source filename := by
  obtain ⟨segs, hseg, hread⟩ := (segmentation_segments _).exists_withoutReturns hp hliteral
  rw [Text.withLineFeeds_eq_withoutReturns hp]
  refine SameReading.check_eq ?_ options filename
  rw [String.toList_ofList, ← hseg.eq_segments]
  exact hread

end BlockLang
