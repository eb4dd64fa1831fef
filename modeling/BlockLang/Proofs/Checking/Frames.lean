import BlockLang.FrontEnd
import BlockLang.Proofs.Checking.Declarations
import BlockLang.Proofs.Checking.Mentions
import BlockLang.Proofs.Messages

/-! # The frames that a check builds

A check starts on any symbol table, also on one whose frames are open and filled. It keeps one frame
for every block that it has open, above the frames of the table.

* `blockFrame`: the frame of a block, told by its declarations. Outside of all blocks it is the
  innermost frame of the table, which grows at its end.
* `Grown`: the table after some statements. Its open frames are those of the open blocks and the
  frames below, and its archive has grown by the frames of the closed blocks.
* `grown_run`: every check keeps this, one lemma per form of statement.

The contents of the table after the check of a program are its declaration structure
(`symbols_eq_declarationStructure`), and no check takes anything from the table that it was given
(`check_keeps_frames`). -/

namespace BlockLang

/-- What a frame has when its block starts. Outside of all blocks this is the innermost frame of the
table. -/
def baseFrame (t : SymbolTable) : Option Nat → Frame
  | none => t.innermost
  | some _ => {}

/-- What the labels in a frame end in. -/
def labelSuffix (t : SymbolTable) (b : Option Nat) : String :=
  if b = none ∧ t.depth = 1 then "-global" else "-local"

/-- **The frame of a block** after some statements: what it had at the start, and the names that are
declared directly in the block and are new to it. -/
noncomputable def blockFrame (t : SymbolTable) (sts : List Statement) (b : Option Nat) : Frame :=
  ⟨(baseFrame t b).entries ++
    (firstDeclarations (labelSuffix t b) sts b).filter fun e => !(baseFrame t b).contains e.1⟩

variable {t : SymbolTable} {sts : List Statement} {st : Statement} {b : Option Nat} {x : String}

/-! ### The frame of a block -/

theorem names_blockFrame : (blockFrame t sts b).names = (baseFrame t b).names ++
    ((firstDeclarations (labelSuffix t b) sts b).map Prod.fst).filter
      fun x => !(baseFrame t b).contains x := by
  rw [Frame.names, blockFrame, List.map_append, List.filter_map]
  rfl

theorem contains_blockFrame : (blockFrame t sts b).contains x = true ↔
    (baseFrame t b).contains x = true ∨ DeclaredIn sts b x := by
  rw [Frame.contains_iff, names_blockFrame, List.mem_append, List.mem_filter,
    mem_names_firstDeclarations, ← Frame.contains_iff]
  by_cases h : (baseFrame t b).contains x = true
  · exact iff_of_true (Or.inl h) (Or.inl h)
  · simp [h]

theorem filter_not_contains_empty (l : List (String × String)) :
    (l.filter fun e => !Frame.contains {} e.1) = l :=
  List.filter_eq_self.mpr fun _ _ => rfl

theorem blockFrame_some (t : SymbolTable) (sts : List Statement) (p : Nat) :
    blockFrame t sts (some p) = ⟨firstDeclarations "-local" sts (some p)⟩ := by
  rw [blockFrame, baseFrame, filter_not_contains_empty]
  rfl

theorem blockFrame_empty (sts : List Statement) :
    blockFrame {} sts none = ⟨firstDeclarations "-global" sts none⟩ := by
  rw [blockFrame, baseFrame, filter_not_contains_empty]
  rfl

theorem blockFrame_nil : blockFrame t [] none = t.innermost := by
  rw [blockFrame, firstDeclarations]
  simp [baseFrame]

theorem blockFrame_start (t : SymbolTable) (sts : List Statement) (st : Statement) :
    blockFrame t (sts ++ [st]) (some sts.length) = {} := by
  rw [blockFrame_some, firstDeclarations_eq_nil (by simp)]

theorem blockFrame_concat_other (hd : ∀ type name body, st ≠ .declaration type name body) :
    blockFrame t (sts ++ [st]) = blockFrame t sts := by
  funext b
  rw [blockFrame, firstDeclarations_concat_other hd, blockFrame]

theorem blockFrame_concat_of_not_isInnermost (hb : ¬ IsInnermost sts b) (st : Statement) :
    blockFrame t (sts ++ [st]) b = blockFrame t sts b := by
  cases st with
  | declaration type name body =>
    rw [blockFrame, firstDeclarations_concat_declaration, if_neg fun h => hb h.1, List.append_nil,
      blockFrame]
  | _ => rw [blockFrame_concat_other fun _ _ _ he => (by cases he)]

/-- **A declaration adds its name to the frame of the innermost block**, unless it is there. -/
theorem blockFrame_concat_declaration (hb : IsInnermost sts b) (type name : Token) (body : Body) :
    blockFrame t (sts ++ [.declaration type name body]) b =
      if (blockFrame t sts b).contains name.lexeme = true then blockFrame t sts b
      else (blockFrame t sts b).insert name.lexeme (type.lexeme ++ labelSuffix t b) := by
  by_cases hc : (blockFrame t sts b).contains name.lexeme = true
  · rw [if_pos hc, blockFrame, firstDeclarations_concat_declaration, List.filter_append, blockFrame]
    rcases contains_blockFrame.mp hc with hbase | hd
    · split
      · rw [List.filter_singleton, hbase, Bool.not_true, cond_false, List.append_nil]
      · rw [List.filter_nil, List.append_nil]
    · rw [if_neg fun h => h.2 hd, List.filter_nil, List.append_nil]
  · have hnew := mt contains_blockFrame.mpr hc
    rw [not_or] at hnew
    have hn : name.lexeme ∉ (blockFrame t sts b).names := fun h => hc (Frame.contains_iff.mpr h)
    rw [if_neg hc, Frame.insert, Frame.insertEntry_of_notMem hn, blockFrame,
      firstDeclarations_concat_declaration, if_pos ⟨hb, hnew.2⟩, List.filter_append,
      List.filter_singleton, Bool.eq_false_iff.mpr hnew.1, Bool.not_false, cond_true,
      ← List.append_assoc]
    rfl

/-! ### Tables -/

namespace SymbolTable

theorem frames_declare (t : SymbolTable) (type name : String) :
    (t.declare type name).frames =
      (if t.innermost.contains name = true then t.innermost
        else t.innermost.insert name (label type t.visibility)) :: t.enclosing := by
  rw [declare, existsHere]
  split <;> rfl

theorem archive_declare (t : SymbolTable) (type name : String) :
    (t.declare type name).archive = t.archive := by
  rw [declare]
  split <;> rfl

end SymbolTable

/-! ### The invariant -/

/-- **The state of a check that was started on a table**, after some statements. -/
structure Grown (t : SymbolTable) (sts : List Statement) (s : CheckState) : Prop where
  braces : List.Forall₂ (fun p brace => sts[p]? = some (.openBlock brace)) (openBlocks sts)
    s.openBraces
  frames : s.table.frames = (blocks (openBlocks sts)).map (blockFrame t sts) ++ t.enclosing
  archive : s.table.archive =
    t.archive ++ (closedBlocks sts).map fun p => blockFrame t sts (some p)

namespace Grown

variable {s : CheckState}

theorem nil (t : SymbolTable) : Grown t [] ⟨t, []⟩ := by
  refine ⟨.nil, ?_, ?_⟩
  · rw [show openBlocks [] = [] from rfl, blocks, List.map_nil, List.nil_append, List.map_singleton,
      blockFrame_nil]
    rfl
  · rw [show closedBlocks [] = [] from rfl, List.map_nil, List.append_nil]

theorem frames_eq_cons (h : Grown t sts s) : s.table.frames =
    blockFrame t sts (openBlocks sts).head? ::
      ((blocks (openBlocks sts)).tail.map (blockFrame t sts) ++ t.enclosing) := by
  rw [h.frames, blocks_eq_cons, List.map_cons, List.cons_append, List.tail_cons]

theorem frames_eq_append (h : Grown t sts s) : s.table.frames =
    (openBlocks sts).map (fun p => blockFrame t sts (some p)) ++
      blockFrame t sts none :: t.enclosing := by
  rw [h.frames, blocks, List.map_append, List.map_map, List.append_assoc]
  rfl

theorem braces_concat (h : Grown t sts s) (st : Statement) :
    List.Forall₂ (fun p brace => (sts ++ [st])[p]? = some (.openBlock brace)) (openBlocks sts)
      s.openBraces := by
  refine h.braces.imp fun p brace hp => ?_
  rw [List.getElem?_append_left (List.getElem?_eq_some_iff.mp hp).1]
  exact hp

theorem concat_open (h : Grown t sts s) (u : Token) :
    Grown t (sts ++ [.openBlock u]) (s.step (.openBlock u)) := by
  have hframe : blockFrame t (sts ++ [.openBlock u]) = blockFrame t sts :=
    blockFrame_concat_other fun _ _ _ he => by cases he
  refine ⟨?_, ?_, ?_⟩
  · rw [openBlocks_concat_open]
    exact .cons List.getElem?_concat_length (h.braces_concat _)
  · rw [openBlocks_concat_open, blocks, List.map_cons, List.cons_append, List.map_cons,
      blockFrame_start, ← blocks, hframe, List.cons_append, ← h.frames]
    rfl
  · rw [closedBlocks_concat_other rfl, hframe]
    exact h.archive

theorem concat_close (h : Grown t sts s) (u : Token) :
    Grown t (sts ++ [.closeBlock u]) (s.step (.closeBlock u)) := by
  have hframe : blockFrame t (sts ++ [.closeBlock u]) = blockFrame t sts :=
    blockFrame_concat_other fun _ _ _ he => by cases he
  have hbraces := h.braces_concat (.closeBlock u)
  obtain ⟨table, openBraces⟩ := s
  rcases hps : openBlocks sts with _ | ⟨p, ps⟩
  · -- a stray brace
    rw [hps, List.forall₂_nil_left_iff] at hbraces
    subst hbraces
    have hopen : openBlocks (sts ++ [.closeBlock u]) = openBlocks sts := by
      rw [openBlocks_concat_close, hps]; rfl
    have hclosed : closedBlocks (sts ++ [.closeBlock u]) = closedBlocks sts := by
      rw [closedBlocks_concat_close, hps]; exact List.append_nil _
    refine ⟨?_, ?_, ?_⟩
    · rw [hopen, hps]; exact .nil
    · rw [hopen, hframe]; exact h.frames
    · rw [hclosed, hframe]; exact h.archive
  · rw [hps] at hbraces
    obtain ⟨brace, braces, -, hrest, rfl⟩ := List.forall₂_cons_left_iff.mp hbraces
    have hframes : table.frames = blockFrame t sts (some p) :: blockFrame t sts ps.head? ::
        ((blocks ps).tail.map (blockFrame t sts) ++ t.enclosing) := by
      rw [h.frames, hps, blocks, List.map_cons, List.cons_append, ← blocks, blocks_eq_cons]
      rfl
    have hopen : openBlocks (sts ++ [.closeBlock u]) = ps := by
      rw [openBlocks_concat_close, hps]; rfl
    have hclosed : closedBlocks (sts ++ [.closeBlock u]) = closedBlocks sts ++ [p] := by
      rw [closedBlocks_concat_close, hps]; rfl
    rw [CheckState.step, SymbolTable.exit_of_frames_eq hframes]
    refine ⟨?_, ?_, ?_⟩
    · rw [hopen]; exact hrest
    · rw [hopen, hframe, blocks_eq_cons]; rfl
    · rw [hclosed, hframe, List.map_append, ← List.append_assoc, ← h.archive]; rfl

theorem depth_eq (h : Grown t sts s) : s.table.depth = (openBlocks sts).length + t.depth := by
  rw [SymbolTable.depth, h.frames, blocks]
  simp only [List.length_append, List.length_map, List.length_singleton]
  rw [Nat.add_right_comm, Nat.add_assoc]
  rfl

theorem label_eq (h : Grown t sts s) (type : String) :
    label type s.table.visibility = type ++ labelSuffix t (openBlocks sts).head? := by
  have hpos := t.depth_pos
  have hdepth : s.table.depth = 1 ↔ (openBlocks sts).head? = none ∧ t.depth = 1 := by
    rw [h.depth_eq, List.head?_eq_none_iff, ← List.length_eq_zero_iff]
    omega
  rw [label, String.append_assoc, SymbolTable.visibility, labelSuffix]
  by_cases hd : s.table.depth = 1
  · rw [if_pos hd, if_pos (hdepth.mp hd)]; rfl
  · rw [if_neg hd, if_neg (mt hdepth.mpr hd)]; rfl

theorem concat_declaration (h : Grown t sts s) (type name : Token) (body : Body) :
    Grown t (sts ++ [.declaration type name body]) (s.step (.declaration type name body)) := by
  have hopen : openBlocks (sts ++ [.declaration type name body]) = openBlocks sts :=
    openBlocks_concat_other rfl rfl
  have hclosed : closedBlocks (sts ++ [.declaration type name body]) = closedBlocks sts :=
    closedBlocks_concat_other rfl
  have hhead := isInnermost_iff_head?.mpr (Eq.refl (openBlocks sts).head?)
  obtain ⟨hinnermost, henclosing⟩ := List.cons.inj h.frames_eq_cons
  refine ⟨?_, ?_, ?_⟩
  · rw [hopen]; exact h.braces_concat _
  · have htail : ∀ b ∈ (blocks (openBlocks sts)).tail,
        blockFrame t (sts ++ [.declaration type name body]) b = blockFrame t sts b := fun b hb =>
      blockFrame_concat_of_not_isInnermost
        (not_isInnermost_of_mem_tail (openStack_openBlocks sts) hb) _
    rw [hopen, blocks_eq_cons, List.map_cons, List.cons_append,
      blockFrame_concat_declaration hhead, List.map_congr_left htail, ← h.label_eq, ← hinnermost,
      ← henclosing]
    exact s.table.frames_declare _ _
  · -- what is closed is not open, so nothing is added to it
    have hold : ∀ p ∈ closedBlocks sts,
        blockFrame t (sts ++ [.declaration type name body]) (some p) =
          blockFrame t sts (some p) := fun p hp =>
      blockFrame_concat_of_not_isInnermost (fun hb =>
        (mem_closedBlocks_iff.mp hp).2 (mem_openBlocks_iff.mpr (hb.1 p rfl))) _
    rw [hclosed, List.map_congr_left hold, ← h.archive]
    exact s.table.archive_declare _ _

theorem concat_other (h : Grown t sts s) (ho : st.isOpening = false) (hc : st.isClosing = false)
    (hd : ∀ type name body, st ≠ .declaration type name body) : Grown t (sts ++ [st]) s := by
  refine ⟨?_, ?_, ?_⟩
  · rw [openBlocks_concat_other ho hc]; exact h.braces_concat st
  · rw [openBlocks_concat_other ho hc, blockFrame_concat_other hd]; exact h.frames
  · rw [closedBlocks_concat_other hc, blockFrame_concat_other hd]; exact h.archive

theorem concat (h : Grown t sts s) (st : Statement) : Grown t (sts ++ [st]) (s.step st) := by
  cases st with
  | openBlock u => exact h.concat_open u
  | closeBlock u => exact h.concat_close u
  | declaration type name body => exact h.concat_declaration type name body
  | _ => exact h.concat_other rfl rfl fun _ _ _ he => (by cases he)

end Grown

theorem grown_run (t : SymbolTable) (sts : List Statement) :
    Grown t sts (CheckState.run ⟨t, []⟩ sts) := by
  induction sts using List.reverseRecOn with
  | nil => exact .nil t
  | append_singleton sts st ih => rw [CheckState.run_append]; exact ih.concat st

/-! ### The declaration structure of a program -/

/-- **What the symbol table holds after some statements**: the names outside of all blocks, those of
the closed blocks in the order of their closing braces, and those of the open blocks in the order of
their opening braces. A label is the type of the first declaration and where the name is known. -/
noncomputable def declarationStructure (sts : List Statement) : Snapshot where
  outermost := ⟨firstDeclarations "-global" sts none⟩
  archived := (closedBlocks sts).map fun p => ⟨firstDeclarations "-local" sts (some p)⟩
  active := (openBlocks sts).reverse.map fun p => ⟨firstDeclarations "-local" sts (some p)⟩

theorem snapshot_run (sts : List Statement) :
    (CheckState.run ⟨{}, []⟩ sts).table.snapshot = declarationStructure sts := by
  have h := grown_run {} sts
  rw [SymbolTable.snapshot_of_frames_eq h.frames_eq_append, h.archive, blockFrame_empty]
  simp only [blockFrame_some, declarationStructure, List.map_reverse]
  rfl

theorem exists_report_subset {st : Statement} : ∀ {sts : List Statement}, st ∈ sts →
    ∀ s : CheckState, ∃ s' : CheckState, s'.report st ⊆ s.reportAll sts
  | st' :: sts, h, s => by
    rcases List.mem_cons.mp h with rfl | h
    · exact ⟨s, List.subset_append_left _ _⟩
    · obtain ⟨s', hs⟩ := exists_report_subset h (s.step st')
      exact ⟨s', List.Subset.trans hs (List.subset_append_right _ _)⟩

theorem invalidName_mem_reportAll {type name : Token} {body : Body}
    (h : .declaration type name body ∈ sts) (hlen : name.lexeme.length ≠ 1) (s : CheckState) :
    ⟨name.line, .invalidName name.lexeme⟩ ∈ s.reportAll sts := by
  obtain ⟨s', hs⟩ := exists_report_subset h s
  refine hs (List.mem_append_left _ (List.mem_append_left _ ?_))
  rw [if_neg hlen]
  exact List.mem_singleton_self _

/-- **The symbol table of a program is its declaration structure.** The archived frames are those
of the closed blocks, one each and in the order of their closing braces, the active frames those of
the open blocks in the order of their opening braces, and the outermost frame is that of the top
level. A frame has the names that are declared directly in its block, once each, in the order of
their first declarations and with the types of these. A name that is no single letter is reported
and entered all the same. -/
theorem symbols_eq_declarationStructure (options : Options) (source filename : String) :
    ∃ sts, Items (beforeEnd (check options source filename).tokens) sts ∧
      (∀ sts', Items (beforeEnd (check options source filename).tokens) sts' → sts' = sts) ∧
      (check options source filename).symbols = declarationStructure sts ∧
      List.Forall₂ (Closes sts) (closedBlocks sts) (closingBraces sts) ∧
      (closedBlocks sts).Nodup ∧
      (∀ p, p ∈ closedBlocks sts ↔
        (∃ brace, sts[p]? = some (.openBlock brace)) ∧ p ∉ openBlocks sts) ∧
      (∀ suffix b, ((firstDeclarations suffix sts b).map Prod.fst).Nodup ∧
        ∀ x, x ∈ (firstDeclarations suffix sts b).map Prod.fst ↔ DeclaredIn sts b x) ∧
      ∀ type name body, .declaration type name body ∈ sts → name.lexeme.length ≠ 1 →
        ⟨name.line, .invalidName name.lexeme⟩ ∈ (check options source filename).findings := by
  refine ⟨statements (beforeEnd (tokenize source)), items_statements _,
    fun _ h => h.eq_statements, snapshot_run _, forall₂_closes _, nodup_closedBlocks _,
    fun _ => mem_closedBlocks_iff, fun _ _ => ⟨nodup_names_firstDeclarations _ _ _,
      fun _ => mem_names_firstDeclarations⟩, fun type name body h hlen => ?_⟩
  have hmem := invalidName_mem_reportAll h hlen ⟨{}, []⟩
  exact List.mem_append_right _ (List.mem_append_left _ hmem)

/-! ### What a check leaves as it was -/

/-- **A table that has grown out of another one.** All open frames of that one are still there, and
they are as they were except for the innermost of them, which has new names at its end. The archive
has grown at its end. -/
structure SymbolTable.Extends (t' t : SymbolTable) : Prop where
  frames : ∃ opened new, t'.frames = opened ++ ⟨t.innermost.entries ++ new⟩ :: t.enclosing ∧
    (new.map Prod.fst).Nodup ∧ ∀ x ∈ new.map Prod.fst, x ∉ t.innermost.names
  archive : t.archive <+: t'.archive

theorem Grown.extends {s : CheckState} (h : Grown t sts s) : s.table.Extends t := by
  have hnames := nodup_names_firstDeclarations (labelSuffix t none) sts none
  refine ⟨⟨_, (firstDeclarations (labelSuffix t none) sts none).filter fun e =>
    !t.innermost.contains e.1, h.frames_eq_append, ?_, fun x hx => ?_⟩, ?_⟩
  · exact hnames.sublist (List.filter_sublist.map _)
  · obtain ⟨e, he, rfl⟩ := List.mem_map.mp hx
    have hnew := (List.mem_filter.mp he).2
    rw [← Frame.contains_iff]
    simpa using hnew
  · rw [h.archive]; exact List.prefix_append _ _

/-- The diagnostics on blocks that are not closed. -/
def missingBraces (rs : List Record) : List Record :=
  rs.filter (·.message = "Missing closing brace")

theorem message_eq_missing_iff {f : Finding} :
    f.record.message = "Missing closing brace" ↔ f.problem = .unclosedBlock :=
  Problem.message_eq_iff_of_fixed (p := .unclosedBlock) (by simp [Problem.fixed])

/-- No statement is reported as a block that is not closed: its findings mention a name. -/
theorem problem_ne_of_mem_reportAll {sts : List Statement} {s : CheckState} {f : Finding}
    (hf : f ∈ s.reportAll sts) : f.problem ≠ .unclosedBlock := by
  obtain ⟨st, -, s', hs⟩ := CheckState.exists_of_mem_reportAll hf
  obtain ⟨-, u, -, hm⟩ := CheckState.mem_report hs
  intro he
  rw [he] at hm
  cases hm

/-- **Only blocks that are open at the end miss a brace.** -/
theorem missingBraces_findings (t : SymbolTable) (tokens : List Token) :
    missingBraces ((Checker.check ⟨tokens⟩ t).findings.map Finding.record) =
      (CheckState.run ⟨t, []⟩ (statements (beforeEnd tokens))).openBraces.map
        fun brace => ⟨.semantic, some brace.line, "Missing closing brace"⟩ := by
  have hreport : ∀ r ∈ (CheckState.reportAll ⟨t, []⟩ (statements (beforeEnd tokens))).map
      Finding.record, ¬ decide (r.message = "Missing closing brace") = true := by
    intro r hr
    obtain ⟨f, hf, rfl⟩ := List.mem_map.mp hr
    rw [decide_eq_true_eq, message_eq_missing_iff]
    exact problem_ne_of_mem_reportAll hf
  have hunclosed : ∀ s : CheckState, ∀ r ∈ s.unclosed.map Finding.record,
      decide (r.message = "Missing closing brace") = true := by
    intro s r hr
    obtain ⟨f, hf, rfl⟩ := List.mem_map.mp hr
    obtain ⟨brace, -, rfl⟩ := List.mem_map.mp hf
    exact decide_eq_true (message_eq_missing_iff.mpr rfl)
  rw [missingBraces, Checker.check, List.map_append, List.filter_append,
    List.filter_eq_nil_iff.mpr hreport, List.filter_eq_self.mpr (hunclosed _), List.nil_append,
    CheckState.unclosed, List.map_map]
  rfl

/-- **A check leaves the table that it is given in place.** However its blocks are nested, and
whatever the tokens are, it pops no frame that it has not opened: at every moment the frames of the
table are still open, and only the innermost of them has grown, by new names at its end. In the end
the open blocks have their frames on top, and each of them is reported on the line of its brace,
innermost first; the archive has one more frame for each closing brace that closes a block. -/
theorem check_keeps_frames (t : SymbolTable) (tokens : List Token) :
    ∃ sts, Items (beforeEnd tokens) sts ∧ (∀ sts', Items (beforeEnd tokens) sts' → sts' = sts) ∧
      (∀ sts', sts' <+: sts → (CheckState.run ⟨t, []⟩ sts').table.Extends t) ∧
      (Checker.check ⟨tokens⟩ t).table = (CheckState.run ⟨t, []⟩ sts).table ∧
      (Checker.check ⟨tokens⟩ t).table.frames =
        (openBlocks sts).map (fun p => blockFrame t sts (some p)) ++
          blockFrame t sts none :: t.enclosing ∧
      (Checker.check ⟨tokens⟩ t).table.depth = t.depth +
        (missingBraces ((Checker.check ⟨tokens⟩ t).findings.map Finding.record)).length ∧
      (Checker.check ⟨tokens⟩ t).table.archive.length =
        t.archive.length + (closingBraces sts).length ∧
      List.Forall₂ (fun p r => ∃ brace, sts[p]? = some (.openBlock brace) ∧
          r = ⟨.semantic, some brace.line, "Missing closing brace"⟩)
        (openBlocks sts)
        (missingBraces ((Checker.check ⟨tokens⟩ t).findings.map Finding.record)) := by
  have h := grown_run t (statements (beforeEnd tokens))
  have hmissing := missingBraces_findings t tokens
  refine ⟨statements (beforeEnd tokens), items_statements _, fun _ hi => hi.eq_statements,
    fun sts' _ => (grown_run t sts').extends, rfl, h.frames_eq_append, ?_, ?_, ?_⟩
  · rw [hmissing, List.length_map, ← h.braces.length_eq, Nat.add_comm]
    exact h.depth_eq
  · rw [← (forall₂_closes _).length_eq, ← List.length_map (f := fun p => blockFrame t _ (some p)),
      ← List.length_append, ← h.archive]
    rfl
  · rw [hmissing, List.forall₂_map_right_iff]
    exact h.braces.imp fun p brace hp => ⟨brace, hp, rfl⟩

end BlockLang
