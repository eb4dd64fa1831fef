import BlockLang.Proofs.Checking.Seam
import BlockLang.Proofs.Checking.StartTable

/-! # A program as a block

A program is wrapped in a block. If its last statement is complete, and no closing brace in it
stands where no block is open, then the braces around it are a block of their own, and the check of
the whole is the check of the program one level deeper.

* `Statement.HasSemicolon`: what every declaration and assignment has if no semicolon is reported
  missing (`hasSemicolon_of_reportAll`). Then what comes behind starts a new statement
  (`Items.append_of_hasSemicolon`).
* `NoStrayBrace`: every closing brace stands where a block is open. Then braces that are open before
  stay open (`CheckState.run_above`).
* `Frame.localized`: the labels of the program's own frame, once it is the frame of a block
  (`firstDeclarations_local`). -/

namespace BlockLang

/-- A declaration or assignment has its semicolon. -/
def Statement.HasSemicolon : Statement → Prop
  | declaration _ _ body | assignment _ body => body.semicolon ≠ none
  | openBlock _ | closeBlock _ | loneType _ | other _ => True

/-- **No closing brace stands where no block is open.** -/
def NoStrayBrace (sts : List Statement) : Prop :=
  ∀ i brace, sts[i]? = some (.closeBlock brace) → ∃ p, IsOpen (sts.take i) p

/-- The label of a name that is known in its block only: `-local` in place of `-global`. -/
def localLabel (text : String) : String :=
  if "-global".toList <:+ text.toList then
    String.ofList (text.toList.take (text.length - "-global".length)) ++ "-local"
  else text

/-- A frame with its labels made local. -/
def Frame.localized (f : Frame) : Frame := ⟨f.entries.map fun e => (e.1, localLabel e.2)⟩

variable {xs ys : List Token} {sts sts' : List Statement} {st : Statement} {t : SymbolTable}
  {s : CheckState}

/-! ### Statements -/

/-- **Behind complete statements the statements start anew**, if no name follows that a type keyword
could take. -/
theorem Items.append_of_hasSemicolon (h : Items xs sts) (h' : Items ys sts')
    (hsemi : ∀ st ∈ sts, st.HasSemicolon) (hys : ∀ u ∈ ys.head?, u.kind ≠ .identifier) :
    Items (xs ++ ys) (sts ++ sts') := by
  induction h with
  | nil => exact h'
  | openBlock hb _ ih => exact .openBlock hb (ih (List.forall_mem_cons.mp hsemi).2)
  | closeBlock hb _ ih => exact .closeBlock hb (ih (List.forall_mem_cons.mp hsemi).2)
  | declaration ht hn hb _ ih =>
    obtain ⟨hs, hsemi⟩ := List.forall_mem_cons.mp hsemi
    rw [List.cons_append, List.cons_append, List.append_assoc]
    exact .declaration ht hn (hb.of_semicolon hs _) (ih hsemi)
  | @loneType type rest _ ht hn _ ih =>
    refine .loneType ht (fun u hu => ?_) (ih (List.forall_mem_cons.mp hsemi).2)
    rcases rest with _ | ⟨v, rest⟩
    · exact hys u hu
    · exact hn u hu
  | assignment hn hb _ ih =>
    obtain ⟨hs, hsemi⟩ := List.forall_mem_cons.mp hsemi
    rw [List.cons_append, List.append_assoc]
    exact .assignment hn (hb.of_semicolon hs _) (ih hsemi)
  | other ho hc hi ht _ ih => exact .other ho hc hi ht (ih (List.forall_mem_cons.mp hsemi).2)

theorem statements_wrapped {opening closing : Token} (ho : opening.kind = .openBrace)
    (hc : closing.kind = .closeBrace) (hsemi : ∀ st ∈ statements xs, st.HasSemicolon) :
    statements (opening :: xs ++ [closing]) =
      .openBlock opening :: (statements xs ++ [.closeBlock closing]) := by
  have hhead : ∀ u ∈ [closing].head?, u.kind ≠ .identifier := by
    rintro u ⟨⟩
    rw [hc]
    decide
  have hitems := (items_statements xs).append_of_hasSemicolon (.closeBlock hc .nil) hsemi hhead
  exact (Items.openBlock ho hitems).eq_statements.symm

/-! ### Missing semicolons -/

theorem CheckState.missingSemicolon_mem_reportBody {form : ValueForm} {line : Int} {name : String}
    {body : Body} (h : body.semicolon = none) :
    ⟨line, .missingSemicolon form name⟩ ∈ reportBody t form line name body := by
  rw [reportBody, h]
  exact List.mem_append_right _ List.mem_cons_self

theorem Problem.prefix_message_missingSemicolon (form : ValueForm) (name : String) :
    "Missing semicolon".toList <+: (missingSemicolon form name).message.toList := by
  have hopenings : ∀ o ∈ ["Missing semicolon after declaration of ",
      "Missing semicolon in assignment for variable "], "Missing semicolon".toList <+: o.toList := by
    decide
  refine List.IsPrefix.trans (hopenings _ ?_) (opening_prefix_message _)
  cases form <;> simp [opening]

/-- **If no semicolon is reported missing, none is missing.** -/
theorem hasSemicolon_of_reportAll
    (h : ∀ f ∈ s.reportAll sts, ¬ "Missing semicolon".toList <+: f.record.message.toList) :
    ∀ st ∈ sts, st.HasSemicolon := by
  intro st hst
  obtain ⟨s', hsub⟩ := exists_report_subset hst s
  have hnone : ∀ line form name, ⟨line, .missingSemicolon form name⟩ ∉ s'.report st :=
    fun line form name hm => h _ (hsub hm) (Problem.prefix_message_missingSemicolon form name)
  cases st with
  | declaration type name body =>
    exact fun hs => hnone _ _ _
      (List.mem_append_right _ (CheckState.missingSemicolon_mem_reportBody hs))
  | assignment name body =>
    exact fun hs => hnone _ _ _
      (List.mem_append_right _ (CheckState.missingSemicolon_mem_reportBody hs))
  | _ => trivial

/-! ### Braces below -/

theorem NoStrayBrace.of_concat (h : NoStrayBrace (sts ++ [st])) : NoStrayBrace sts := by
  intro i brace hi
  have hlt := (List.getElem?_eq_some_iff.mp hi).1
  have hopen := h i brace (by rw [List.getElem?_append_left hlt, hi])
  rwa [take_concat_of_le (Nat.le_of_lt hlt)] at hopen

theorem exists_isOpen_iff (t : SymbolTable) (sts : List Statement) :
    (∃ p, IsOpen sts p) ↔ (CheckState.run ⟨t, []⟩ sts).openBraces ≠ [] := by
  rw [← List.length_pos_iff, ← (grown_run t sts).braces.length_eq, List.length_pos_iff_exists_mem]
  simp only [mem_openBlocks_iff]

theorem NoStrayBrace.openBraces_ne_nil (h : NoStrayBrace (sts ++ [st])) (hst : st.isClosing = true)
    (t : SymbolTable) : (CheckState.run ⟨t, []⟩ sts).openBraces ≠ [] := by
  obtain ⟨brace, rfl⟩ : ∃ brace, st = .closeBlock brace := by
    cases st with
    | closeBlock brace => exact ⟨brace, rfl⟩
    | _ => cases hst
  have hopen := h sts.length brace List.getElem?_concat_length
  rw [take_concat_of_le (Nat.le_refl _), List.take_length] at hopen
  exact (exists_isOpen_iff t sts).mp hopen

namespace CheckState

/-- A statement leaves the braces alone that lie below, unless it closes one of them. -/
theorem step_above (s : CheckState) (below : List Token)
    (h : st.isClosing = true → s.openBraces ≠ []) :
    step ⟨s.table, s.openBraces ++ below⟩ st =
      ⟨(s.step st).table, (s.step st).openBraces ++ below⟩ := by
  obtain ⟨t, braces⟩ := s
  cases st with
  | closeBlock brace =>
    rcases braces with _ | ⟨b, braces⟩
    · exact absurd rfl (h rfl)
    · rfl
  | _ => rfl

/-- **Without stray braces, the braces that were open before stay open.** -/
theorem run_above (h : NoStrayBrace sts) (t : SymbolTable) (below : List Token) :
    run ⟨t, below⟩ sts = ⟨(run ⟨t, []⟩ sts).table, (run ⟨t, []⟩ sts).openBraces ++ below⟩ := by
  induction sts using List.reverseRecOn with
  | nil => rfl
  | append_singleton sts st ih =>
    rw [run_append, run_append, ih h.of_concat]
    exact step_above _ below fun hst => h.openBraces_ne_nil hst t

theorem report_mk (t : SymbolTable) (braces braces' : List Token) (st : Statement) :
    report ⟨t, braces⟩ st = report ⟨t, braces'⟩ st := by
  cases st <;> rfl

theorem reportAll_above (h : NoStrayBrace sts) (t : SymbolTable) (below : List Token) :
    reportAll ⟨t, below⟩ sts = reportAll ⟨t, []⟩ sts := by
  induction sts using List.reverseRecOn with
  | nil => rfl
  | append_singleton sts st ih =>
    rw [reportAll_append, reportAll_append, ih h.of_concat, run_above h.of_concat,
      reportAll_singleton, reportAll_singleton]
    exact congrArg _ (report_mk _ _ _ st)

end CheckState

/-! ### Labels -/

theorem localLabel_global (type : String) : localLabel (type ++ "-global") = type ++ "-local" := by
  rw [localLabel, if_pos (by rw [String.toList_append]; exact List.suffix_append _ _),
    String.length_append, Nat.add_sub_cancel, String.toList_append, ← String.length_toList,
    List.take_left, String.ofList_toList]

/-- **The labels of a block are those of the top level made local.** -/
theorem firstDeclarations_local (sts : List Statement) (b : Option Nat) :
    firstDeclarations "-local" sts b =
      (firstDeclarations "-global" sts b).map fun e => (e.1, localLabel e.2) := by
  have hentry : ∀ j, entryAt "-local" sts b j =
      (entryAt "-global" sts b j).map fun e => (e.1, localLabel e.2) := by
    intro j
    rw [entryAt, entryAt]
    split
    · split
      · rw [Option.map_some, localLabel_global]
      · rfl
    · rfl
  rw [firstDeclarations, firstDeclarations, List.map_filterMap]
  exact List.filterMap_congr fun j _ => hentry j

/-! ### Wrapped programs -/

theorem blockFrame_enter (sts : List Statement) :
    blockFrame (SymbolTable.enter {}) sts none = (blockFrame {} sts none).localized := by
  rw [blockFrame_empty, Frame.localized, ← firstDeclarations_local, blockFrame]
  exact congrArg Frame.mk (filter_not_contains_empty _)

/-- **The table of a wrapped program**, once its last block is closed. -/
theorem exit_run_enter (h : openBlocks sts = []) :
    (CheckState.run ⟨SymbolTable.enter {}, []⟩ sts).table.exit =
      ⟨{}, [], (CheckState.run ⟨{}, []⟩ sts).table.archive ++
        [(blockFrame {} sts none).localized]⟩ := by
  have hg := grown_run {} sts
  have hg' := grown_run (SymbolTable.enter {}) sts
  have hframes : (CheckState.run ⟨SymbolTable.enter {}, []⟩ sts).table.frames =
      [blockFrame (SymbolTable.enter {}) sts none, {}] := by
    rw [hg'.frames_eq_append, h]
    rfl
  rw [SymbolTable.exit_of_frames_eq hframes, blockFrame_enter, hg'.archive, hg.archive]
  simp only [blockFrame_some]
  rfl

theorem run_wrapped (h : NoStrayBrace sts) (opening closing : Token)
    (hopen : (CheckState.run ⟨{}, []⟩ sts).openBraces = []) :
    CheckState.run ⟨{}, []⟩ (.openBlock opening :: (sts ++ [.closeBlock closing])) =
      ⟨(CheckState.run ⟨SymbolTable.enter {}, []⟩ sts).table.exit, []⟩ := by
  have hbraces : (CheckState.run ⟨SymbolTable.enter {}, []⟩ sts).openBraces = [] :=
    (CheckState.openBraces_run_eq {} _ [] sts).trans hopen
  show (CheckState.run ⟨SymbolTable.enter {}, [opening]⟩ (sts ++ [.closeBlock closing])) = _
  rw [CheckState.run_append, CheckState.run_above h, hbraces]
  rfl

/-- **The findings on the statements of a wrapped program** are those on the program. -/
theorem reportAll_wrapped (h : NoStrayBrace sts) (opening closing : Token) :
    CheckState.reportAll ⟨{}, []⟩ (.openBlock opening :: (sts ++ [.closeBlock closing])) =
      CheckState.reportAll ⟨{}, []⟩ sts := by
  -- neither table has a name
  have hvisible : ∀ y, (SymbolTable.enter {}).isVisible y = SymbolTable.isVisible {} y := fun _ => rfl
  have hhere : ∀ y, (SymbolTable.enter {}).existsHere y = SymbolTable.existsHere {} y := fun _ => rfl
  calc CheckState.reportAll ⟨{}, []⟩ (.openBlock opening :: (sts ++ [.closeBlock closing]))
      = CheckState.reportAll ⟨SymbolTable.enter {}, [opening]⟩ (sts ++ [.closeBlock closing]) := rfl
    _ = CheckState.reportAll ⟨SymbolTable.enter {}, [opening]⟩ sts := by
      rw [CheckState.reportAll_append, CheckState.reportAll_singleton]
      exact List.append_nil _
    _ = CheckState.reportAll ⟨SymbolTable.enter {}, []⟩ sts := CheckState.reportAll_above h _ _
    _ = CheckState.reportAll ⟨{}, []⟩ sts := CheckState.reportAll_congr hvisible hhere sts

/-- **Wrapping a program in a block only makes it local.** A program has no end of input, and its
check reports no missing semicolon and no missing closing brace; no closing brace in it stands where
no block is open. With a block around it, the check reports the same. It leaves the outermost frame
empty and no block open, and behind the frames that are archived for the program, it archives the
program's own frame with its labels made local. -/
theorem check_in_block {ts : List Token} {opening closing : Token}
    (ho : opening.kind = .openBrace) (hc : closing.kind = .closeBrace)
    (hend : ∀ u ∈ ts, u.kind ≠ .endOfInput)
    (hsemi : ∀ f ∈ (Checker.check ⟨ts⟩ {}).findings,
      ¬ "Missing semicolon".toList <+: f.record.message.toList)
    (hbraces : ∀ f ∈ (Checker.check ⟨ts⟩ {}).findings,
      f.record.message ≠ "Missing closing brace")
    (hstray : NoStrayBrace (statements ts)) :
    (Checker.check ⟨opening :: ts ++ [closing]⟩ {}).findings = (Checker.check ⟨ts⟩ {}).findings ∧
    (Checker.check ⟨opening :: ts ++ [closing]⟩ {}).table.depth = 1 ∧
    (Checker.check ⟨opening :: ts ++ [closing]⟩ {}).table.snapshot =
      { outermost := {}
        archived := (Checker.check ⟨ts⟩ {}).table.snapshot.archived ++
          [(Checker.check ⟨ts⟩ {}).table.snapshot.outermost.localized]
        active := [] } := by
  have hend' : ∀ u ∈ opening :: ts ++ [closing], u.kind ≠ .endOfInput := by
    simp only [List.cons_append, List.forall_mem_cons, List.forall_mem_append, ho, hc]
    exact ⟨by decide, hend, by decide, fun _ h => absurd h List.not_mem_nil⟩
  have hopen := openBraces_eq_nil_of_findings hbraces
  rw [beforeEnd_eq_self hend] at hopen
  have hcheck := Checker.check_of_closed hend hopen
  have hsemicolons : ∀ st ∈ statements ts, st.HasSemicolon := by
    rw [hcheck] at hsemi
    exact hasSemicolon_of_reportAll hsemi
  have hstatements := statements_wrapped ho hc hsemicolons
  have hrun := run_wrapped hstray opening closing hopen
  have hcheck' := Checker.check_of_closed (t := {}) hend' (by rw [hstatements, hrun])
  have hblocks : openBlocks (statements ts) = [] := by
    rw [← List.length_eq_zero_iff, (grown_run {} _).braces.length_eq, hopen, List.length_nil]
  have hframes : (CheckState.run ⟨{}, []⟩ (statements ts)).table.frames =
      [] ++ [blockFrame {} (statements ts) none] := by
    rw [(grown_run {} _).frames_eq_append, hblocks]
    rfl
  rw [hcheck', hcheck, hstatements, hrun, exit_run_enter hblocks,
    SymbolTable.snapshot_of_frames_eq hframes]
  exact ⟨reportAll_wrapped hstray opening closing, rfl, rfl⟩

/-- `int a = b;`, then a block that shadows `a` and has a closing brace in a value, and at the end
a type keyword without a name. -/
def loneAtEnd : List Token :=
  [⟨.keyword, "int", 1⟩, ⟨.identifier, "a", 1⟩, ⟨.operator, "=", 1⟩, ⟨.identifier, "b", 1⟩,
    ⟨.semicolon, ";", 1⟩, ⟨.openBrace, "\x7b", 2⟩, ⟨.keyword, "char", 2⟩, ⟨.identifier, "a", 2⟩,
    ⟨.operator, "=", 2⟩, ⟨.closeBrace, "\x7d", 2⟩, ⟨.identifier, "a", 2⟩, ⟨.semicolon, ";", 2⟩,
    ⟨.closeBrace, "\x7d", 2⟩, ⟨.keyword, "int", 3⟩]

/-- The brace that is put behind it is no name for the type keyword, and closes the block. -/
theorem check_in_block_of_loneAtEnd :
    (∀ u ∈ loneAtEnd, u.kind ≠ .endOfInput) ∧
    (∀ f ∈ (Checker.check ⟨loneAtEnd⟩ {}).findings,
      ¬ "Missing semicolon".toList <+: f.record.message.toList) ∧
    (∀ f ∈ (Checker.check ⟨loneAtEnd⟩ {}).findings,
      f.record.message ≠ "Missing closing brace") ∧
    NoStrayBrace (statements loneAtEnd) ∧
    (Checker.check ⟨⟨.openBrace, "\x7b", 0⟩ :: loneAtEnd ++
        [⟨.closeBrace, "\x7d", 4⟩]⟩ {}).findings =
      [⟨1, .undeclared .declaration "b"⟩, ⟨3, .expectedName "int"⟩] ∧
    (Checker.check ⟨⟨.openBrace, "\x7b", 0⟩ :: loneAtEnd ++
        [⟨.closeBrace, "\x7d", 4⟩]⟩ {}).table.snapshot =
      ⟨{}, [⟨[("a", "char-local")]⟩, ⟨[("a", "int-local")]⟩], []⟩ := by
  have hopening : (⟨.openBrace, "\x7b", 0⟩ : Token).kind = .openBrace := rfl
  have hclosing : (⟨.closeBrace, "\x7d", 4⟩ : Token).kind = .closeBrace := rfl
  have hend : ∀ u ∈ loneAtEnd, u.kind ≠ .endOfInput := by decide
  have hsemi : ∀ f ∈ (Checker.check ⟨loneAtEnd⟩ {}).findings,
      ¬ "Missing semicolon".toList <+: f.record.message.toList := by decide +kernel
  have hbraces : ∀ f ∈ (Checker.check ⟨loneAtEnd⟩ {}).findings,
      f.record.message ≠ "Missing closing brace" := by decide +kernel
  have hopen : ∀ i < (statements loneAtEnd).length, (statements loneAtEnd)[i]?.any (·.isClosing) →
      (CheckState.run ⟨{}, []⟩ ((statements loneAtEnd).take i)).openBraces ≠ [] := by
    decide +kernel
  have hstray : NoStrayBrace (statements loneAtEnd) := by
    intro i brace hi
    have hlt := (List.getElem?_eq_some_iff.mp hi).1
    exact (exists_isOpen_iff {} _).mpr (hopen i hlt (by rw [hi]; rfl))
  obtain ⟨hfindings, -, hsnapshot⟩ := check_in_block hopening hclosing hend hsemi hbraces hstray
  exact ⟨hend, hsemi, hbraces, hstray, hfindings.trans (by decide +kernel),
    hsnapshot.trans (by decide +kernel)⟩

end BlockLang
