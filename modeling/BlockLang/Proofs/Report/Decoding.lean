import BlockLang.Proofs.Checking.Frames
import BlockLang.Proofs.Report.Lossless

/-! # Reading reports back

The reports on the tokens and on the symbols of a program tell them, although nothing in them is
quoted: a lexeme may look like the end of its line or like another token.

* `Token.IsLegible`: a token that is one line of a report. Its kind ends at the first colon and its
  line number starts behind the last blank, so the line tells the token, whatever its lexeme is
  (`Token.IsLegible.eq_of_render_eq`).
* `Frame.IsPlain`: the names of a frame have no blanks, and there are no line breaks in it. Then the
  lines of the frame tell it, where another title or nothing comes next (`delimited_frameLines`).
* `Snapshot.IsPlain`: all frames of a symbol table are so. The names of a program are words, and their
  labels are made of type keywords (`isPlain_symbols`).

So two programs with the same reports have the same symbols and the same tokens
(`reports_tell_products`). -/

namespace BlockLang

/-! ### Lines -/

/-- **Lines that are put below each other are told by the text.** -/
theorem eq_of_lines_eq {ls ls' : List String} (h : ∀ l ∈ ls, '\n' ∉ l.toList)
    (h' : ∀ l ∈ ls', '\n' ∉ l.toList) (hne : ls ≠ []) (hne' : ls' ≠ [])
    (he : Report.lines ls = Report.lines ls') : ls = ls' := by
  have hsplit := splitOn_lines h hne
  rw [he, splitOn_lines h' hne'] at hsplit
  exact (List.map_inj_right fun _ _ => String.toList_inj.mp).mp hsplit.symm

theorem newline_notMem_append {text text' : String} (h : '\n' ∉ text.toList)
    (h' : '\n' ∉ text'.toList) : '\n' ∉ (text ++ text').toList := by
  rw [String.toList_append, List.mem_append]
  exact not_or_intro h h'

/-! ### Tokens -/

namespace Token

variable {t t' : Token}

/-- **A token that is one line of a report**, on a line that is counted from somewhere. -/
structure IsLegible (t : Token) : Prop where
  line : 0 ≤ t.line
  lexeme : '\n' ∉ t.lexeme.toList

theorem toList_render (t : Token) : t.render.toList =
    t.kind.name.toList ++ ':' :: ((t.lexeme ++ " (Line").toList ++
      ' ' :: ((toString t.line).toList ++ [')'])) := by
  simp [render]

theorem IsLegible.newline_notMem_render (h : t.IsLegible) : '\n' ∉ t.render.toList := by
  have hname : '\n' ∉ (t.kind.name ++ ":").toList := by
    cases t.kind <;> decide
  have hopen : '\n' ∉ " (Line ".toList := by decide
  have hline : '\n' ∉ (toString t.line).toList := (Text.singleLine_toString t.line).newline_notMem
  have hclose : '\n' ∉ ")".toList := by decide
  have hstart := newline_notMem_append (newline_notMem_append hname h.lexeme) hopen
  exact newline_notMem_append (newline_notMem_append hstart hline) hclose

/-- **The line of a report tells the token.** -/
theorem IsLegible.eq_of_render_eq (h : t.IsLegible) (h' : t'.IsLegible)
    (he : t.render = t'.render) : t = t' := by
  have hcolon : ∀ k : TokenKind, ':' ∉ k.name.toList := by
    intro k
    cases k <;> decide
  have hblank : ∀ n : Int, ' ' ∉ (toString n).toList ++ [')'] := by
    intro n hm
    rcases List.mem_append.mp hm with hm | hm
    · rcases Text.chars_toString n ' ' hm with hd | hd <;> cases hd
    · cases List.mem_singleton.mp hm
  rw [← String.toList_inj, toList_render, toList_render] at he
  obtain ⟨hname, hmore⟩ := eq_of_append_cons (hcolon _) (hcolon _) he
  obtain ⟨hlexeme, hnumber⟩ := eq_of_append_cons_of_last (hblank _) (hblank _) hmore
  have hkind : t.kind = t'.kind := by
    have hnamed := TokenKind.named?_name t.kind
    rw [String.toList_inj.mp hname, TokenKind.named?_name] at hnamed
    exact (Option.some.inj hnamed).symm
  have hline : t.line = t'.line :=
    eq_of_toString_eq h.line h'.line (String.toList_inj.mp (List.append_cancel_right hnumber))
  have htext : t.lexeme = t'.lexeme :=
    (String.append_left_inj _).mp (String.toList_inj.mp hlexeme)
  obtain ⟨kind, lexeme, line⟩ := t
  obtain ⟨kind', lexeme', line'⟩ := t'
  exact congr (congrArg₂ Token.mk hkind htext) hline

theorem WellFormed.newline_notMem (h : t.WellFormed)
    (hquoted : t.kind = .string ∨ t.kind = .char → '\n' ∉ t.lexeme.toList) :
    '\n' ∉ t.lexeme.toList := by
  have hplain : (∀ c ∈ t.lexeme.toList, Text.isBlank c = false) → '\n' ∉ t.lexeme.toList :=
    fun hb => (Text.singleLine_of_not_isBlank hb).newline_notMem
  obtain ⟨kind, lexeme, line⟩ := t
  cases kind with
  | keyword => exact hplain (isWord_of_mem_keywords h).not_isBlank
  | identifier => exact hplain h.1.not_isBlank
  | number => exact hplain (IsNumeral.not_isBlank h)
  | operator => exact hplain (IsOperator.not_isBlank h)
  | string => exact hquoted (Or.inl rfl)
  | char => exact hquoted (Or.inr rfl)
  | openBrace | closeBrace | semicolon =>
    have hchars : lexeme.toList = _ := h
    rw [hchars]
    decide
  | endOfInput => exact h.elim

end Token

/-- **The tokens of a program are lines of a report**, if no line break stands in quotes. -/
theorem isLegible_of_mem_tokenize {source : String} {t : Token} (ht : t ∈ tokenize source)
    (hquoted : t.kind = .string ∨ t.kind = .char → '\n' ∉ t.lexeme.toList) : t.IsLegible := by
  have hline : 1 ≤ t.line := le_line_of_mem_tokensFrom ht
  refine ⟨by omega, ?_⟩
  obtain ⟨tokens, line, he, hform⟩ := exists_tokens_eq source
  rw [he, List.mem_append] at ht
  rcases ht with ht | ht
  · rcases hform t ht with h | ⟨-, h⟩
    · exact h.newline_notMem hquoted
    · rw [h]
      exact List.not_mem_nil
  · rw [List.mem_singleton.mp ht]
    exact List.not_mem_nil

theorem eq_of_ofTokens_eq {tokens tokens' : List Token} (h : ∀ t ∈ tokens, t.IsLegible)
    (h' : ∀ t ∈ tokens', t.IsLegible) (he : Report.ofTokens tokens = Report.ofTokens tokens') :
    tokens = tokens' := by
  have hlines : ∀ {ts : List Token}, (∀ t ∈ ts, t.IsLegible) →
      ∀ l ∈ "=== Tokens ===" :: ts.map Token.render, '\n' ∉ l.toList := by
    intro ts hts l hl
    rcases List.mem_cons.mp hl with rfl | hl
    · decide
    · obtain ⟨t, ht, rfl⟩ := List.mem_map.mp hl
      exact (hts t ht).newline_notMem_render
  have hrows := eq_of_lines_eq (hlines h) (hlines h') (List.cons_ne_nil _ _) (List.cons_ne_nil _ _) he
  have htokens : tokens.map id = tokens'.map id :=
    map_eq_of_map_eq (fun t ht t' ht' => (h t ht).eq_of_render_eq (h' t' ht')) (List.cons.inj hrows).2
  rwa [List.map_id, List.map_id] at htokens

/-! ### Frames -/

/-- **A frame whose lines tell it**: no name has a blank, and there are no line breaks. -/
def Frame.IsPlain (f : Frame) : Prop :=
  ∀ e ∈ f.entries, ' ' ∉ e.1.toList ∧ '\n' ∉ e.1.toList ∧ '\n' ∉ e.2.toList

/-- Whether a line of a report starts with a blank, as the lines on names do. -/
def isIndented (line : String) : Bool := line.toList.head? = some ' '

/-- No line on a name comes next. -/
def NoEntry (rest : List String) : Prop := ∀ line ∈ rest.head?, isIndented line = false

section Frames

variable {title : String} {f : Frame}

theorem toList_entryLine (e : String × String) : (Report.entryLine e).toList =
    ' ' :: ' ' :: (e.1.toList ++ ' ' :: (": " ++ e.2).toList) := by
  simp [Report.entryLine]

theorem isIndented_entryLine (e : String × String) : isIndented (Report.entryLine e) = true := by
  rw [isIndented, toList_entryLine]
  rfl

theorem eq_of_entryLine_eq {e e' : String × String} (h : ' ' ∉ e.1.toList) (h' : ' ' ∉ e'.1.toList)
    (he : Report.entryLine e = Report.entryLine e') : e = e' := by
  rw [← String.toList_inj, toList_entryLine, toList_entryLine] at he
  simp only [List.cons.injEq, true_and] at he
  obtain ⟨hname, hlabel⟩ := eq_of_append_cons h h' he
  exact Prod.ext (String.toList_inj.mp hname)
    ((String.append_right_inj _).mp (String.toList_inj.mp hlabel))

theorem noEntry_frameLines (htitle : isIndented title = false) (f : Frame) (rest : List String) :
    NoEntry (Report.frameLines title f ++ rest) := by
  intro line hline
  cases hline
  exact htitle

/-- **The lines of a frame tell the frame**, if no line on a name comes next. -/
theorem delimited_frameLines (title : String) :
    Delimited Frame.IsPlain NoEntry (Report.frameLines title) := by
  intro f f' rest rest' hf hf' hrest hrest' he
  have hindented : ∀ {es : List (String × String)}, ∀ line ∈ es.map Report.entryLine,
      isIndented line = true := by
    intro es line hline
    obtain ⟨e, -, rfl⟩ := List.mem_map.mp hline
    exact isIndented_entryLine e
  obtain ⟨hrows, hmore⟩ :=
    eq_of_append_of_stop hindented hindented hrest hrest' (List.cons.inj he).2
  have hentries : f.entries.map id = f'.entries.map id :=
    map_eq_of_map_eq (fun e hm e' hm' => eq_of_entryLine_eq (hf e hm).1 (hf' e' hm').1) hrows
  rw [List.map_id, List.map_id] at hentries
  obtain ⟨entries⟩ := f
  obtain ⟨entries'⟩ := f'
  exact ⟨congrArg Frame.mk hentries, hmore⟩

theorem noEntry_flatMap (htitle : isIndented title = false) (fs : List Frame) {rest : List String}
    (hrest : NoEntry rest) : NoEntry (fs.flatMap (Report.frameLines title) ++ rest) :=
  follows_flatMap (fun f rest _ => noEntry_frameLines htitle f rest) (fun _ _ => trivial) hrest

/-- **The lines of some frames of one title tell the frames**, if no such frame comes next. -/
theorem eq_of_flatMap_eq (htitle : isIndented title = false) {fs fs' : List Frame}
    {rest rest' : List String} (h : ∀ f ∈ fs, f.IsPlain) (h' : ∀ f ∈ fs', f.IsPlain)
    (hrest : NoEntry rest) (hrest' : NoEntry rest')
    (hend : ∀ f more, rest ≠ Report.frameLines title f ++ more)
    (hend' : ∀ f more, rest' ≠ Report.frameLines title f ++ more)
    (he : fs.flatMap (Report.frameLines title) ++ rest =
      fs'.flatMap (Report.frameLines title) ++ rest') : fs = fs' ∧ rest = rest' :=
  Delimited.flatMap (delimited_frameLines title)
    (fun f more _ => noEntry_frameLines htitle f more) h h' hrest hrest'
    (fun f more _ => hend f more) (fun f more _ => hend' f more) he

theorem newline_notMem_of_mem_frameLines (htitle : '\n' ∉ title.toList) (hf : f.IsPlain) :
    ∀ line ∈ Report.frameLines title f, '\n' ∉ line.toList := by
  intro line hline
  rcases List.mem_cons.mp hline with rfl | hline
  · exact htitle
  · obtain ⟨e, he, rfl⟩ := List.mem_map.mp hline
    obtain ⟨-, hname, hlabel⟩ := hf e he
    have hindent : '\n' ∉ "  ".toList := by decide
    have hcolon : '\n' ∉ " : ".toList := by decide
    have hstart := newline_notMem_append (newline_notMem_append hindent hname) hcolon
    exact newline_notMem_append hstart hlabel

end Frames

/-! ### Symbol tables -/

/-- **The contents of a symbol table whose lines tell it.** -/
structure Snapshot.IsPlain (s : Snapshot) : Prop where
  outermost : s.outermost.IsPlain
  archived : ∀ f ∈ s.archived, f.IsPlain
  active : ∀ f ∈ s.active, f.IsPlain

theorem flatMap_frameLines_ne {title title' : String} (h : title ≠ title') (fs : List Frame)
    (f : Frame) (more : List String) :
    fs.flatMap (Report.frameLines title) ++ [] ≠ Report.frameLines title' f ++ more := by
  intro he
  cases fs with
  | nil => cases he
  | cons g fs => exact h (List.cons.inj he).1

/-- The lines of the report on the contents of a symbol table. -/
def Snapshot.reportLines (s : Snapshot) : List String :=
  "=== Symbol Table ===" :: Report.frameLines "global scope:" s.outermost ++
    s.archived.flatMap (Report.frameLines "local scope (exited):") ++
    s.active.flatMap (Report.frameLines "local scope (active):")

theorem Snapshot.IsPlain.newline_notMem {s : Snapshot} (h : s.IsPlain) :
    ∀ line ∈ s.reportLines, '\n' ∉ line.toList := by
  intro line hline
  simp only [reportLines, List.cons_append, List.mem_cons, List.mem_append, List.mem_flatMap]
    at hline
  rcases hline with rfl | (hline | ⟨f, hf, hline⟩) | ⟨f, hf, hline⟩
  · decide
  · exact newline_notMem_of_mem_frameLines (by decide) h.outermost line hline
  · exact newline_notMem_of_mem_frameLines (by decide) (h.archived f hf) line hline
  · exact newline_notMem_of_mem_frameLines (by decide) (h.active f hf) line hline

/-- **The report on the contents of a symbol table tells them.** -/
theorem eq_of_ofSymbols_eq {s s' : Snapshot} (h : s.IsPlain) (h' : s'.IsPlain)
    (he : Report.ofSymbols s = Report.ofSymbols s') : s = s' := by
  have hrows : s.reportLines = s'.reportLines :=
    eq_of_lines_eq h.newline_notMem h'.newline_notMem (List.cons_ne_nil _ _) (List.cons_ne_nil _ _) he
  have hexited : isIndented "local scope (exited):" = false := by decide
  have hactive : isIndented "local scope (active):" = false := by decide
  have hother : "local scope (active):" ≠ "local scope (exited):" := by decide
  have hnil : NoEntry [] := fun line hline => by cases hline
  have hrest : ∀ fs : List Frame,
      NoEntry (fs.flatMap (Report.frameLines "local scope (active):") ++ []) :=
    fun fs => noEntry_flatMap hactive fs hnil
  simp only [Snapshot.reportLines, List.cons_append, List.append_assoc, List.cons.injEq, true_and]
    at hrows
  rw [← List.append_nil (s.active.flatMap _), ← List.append_nil (s'.active.flatMap _)] at hrows
  obtain ⟨houtermost, hmore⟩ := delimited_frameLines "global scope:" h.outermost h'.outermost
    (noEntry_flatMap hexited _ (hrest _)) (noEntry_flatMap hexited _ (hrest _)) hrows
  obtain ⟨harchived, hmore⟩ := eq_of_flatMap_eq hexited h.archived h'.archived (hrest _) (hrest _)
    (flatMap_frameLines_ne hother _) (flatMap_frameLines_ne hother _) hmore
  obtain ⟨hopen, -⟩ := eq_of_flatMap_eq hactive h.active h'.active hnil hnil
    (fun f more hend => by cases hend) (fun f more hend => by cases hend) hmore
  obtain ⟨outermost, archived, active⟩ := s
  obtain ⟨outermost', archived', active'⟩ := s'
  exact congr (congrArg₂ Snapshot.mk houtermost harchived) hopen

/-- **The symbols of a program are plain**: a name that is declared is a word, and its label is made
of a type keyword. -/
theorem isPlain_symbols (options : Options) (source filename : String) :
    (check options source filename).symbols.IsPlain := by
  have hsymbols : (check options source filename).symbols =
      declarationStructure (statements (beforeEnd (tokenize source))) := snapshot_run _
  have hitems := items_statements (beforeEnd (tokenize source))
  have hword : ∀ {text : String}, IsWord text.toList → ' ' ∉ text.toList ∧ '\n' ∉ text.toList := by
    intro text hw
    refine ⟨fun hm => ?_, (Text.singleLine_of_not_isBlank hw.not_isBlank).newline_notMem⟩
    cases hw.2 ' ' hm
  have hframe : ∀ {suffix : String}, '\n' ∉ suffix.toList → ∀ b, Frame.IsPlain
      ⟨firstDeclarations suffix (statements (beforeEnd (tokenize source))) b⟩ := by
    intro suffix hsuffix b e he
    obtain ⟨type, name, body, hst, rfl⟩ := exists_of_mem_firstDeclarations he
    obtain ⟨hname, hkind⟩ := hitems.name_of_declaration hst
    have htype := (hitems.isFormed _ hst).1
    rw [Token.isTypeKeyword, decide_eq_true_eq] at htype
    have hnameWord := isWord_of_mem_tokenize ((List.takeWhile_sublist _).subset hname) hkind
    have htypeWord := isWord_of_mem_keywords (typeKeywords_subset_keywords htype.2)
    exact ⟨(hword hnameWord).1, (hword hnameWord).2,
      newline_notMem_append (hword htypeWord).2 hsuffix⟩
  rw [hsymbols]
  refine ⟨hframe (by decide) none, fun f hf => ?_, fun f hf => ?_⟩
  · obtain ⟨p, -, rfl⟩ := List.mem_map.mp hf
    exact hframe (by decide) (some p)
  · obtain ⟨p, -, rfl⟩ := List.mem_map.mp hf
    exact hframe (by decide) (some p)

/-! ### Reports on programs -/

/-- **The reports tell what they report.** If the reports on the symbols of two programs are equal,
the symbols are: the same frames with the same names and labels in the same order. If the reports on
their tokens are equal, and no string or character literal of either has a line break in it, the
tokens are: the same kinds, lexemes and lines. -/
theorem reports_tell_products (options options' : Options)
    (source source' filename filename' : String) :
    (Report.ofSymbols (check options source filename).symbols =
        Report.ofSymbols (check options' source' filename').symbols →
      (check options source filename).symbols = (check options' source' filename').symbols) ∧
    ((∀ t ∈ (check options source filename).tokens ++ (check options' source' filename').tokens,
        t.kind = .string ∨ t.kind = .char → '\n' ∉ t.lexeme.toList) →
      Report.ofTokens (check options source filename).tokens =
        Report.ofTokens (check options' source' filename').tokens →
      (check options source filename).tokens = (check options' source' filename').tokens) := by
  refine ⟨eq_of_ofSymbols_eq (isPlain_symbols _ _ _) (isPlain_symbols _ _ _), fun hquoted he => ?_⟩
  refine eq_of_ofTokens_eq (fun t ht => ?_) (fun t ht => ?_) he
  · exact isLegible_of_mem_tokenize ht (hquoted t (List.mem_append_left _ ht))
  · exact isLegible_of_mem_tokenize ht (hquoted t (List.mem_append_right _ ht))

/-- With a line break in a string, two programs can have the same report on different tokens: what
follows the break reads as another token. -/
example : Report.ofTokens (tokenize "\"x (Line 1)\nSTRING:y\"") =
      Report.ofTokens (tokenize "\"x\" \"y\"\n") ∧
    tokenize "\"x (Line 1)\nSTRING:y\"" ≠ tokenize "\"x\" \"y\"\n" := by decide +kernel

end BlockLang
