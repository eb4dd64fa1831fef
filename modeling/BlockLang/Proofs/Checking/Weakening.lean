import BlockLang.Proofs.Checking.Seam
import BlockLang.Proofs.Checking.StartTable

/-! # Declaring a name up front

A declaration is put before a program that does not declare its name outside of all blocks itself.
The name is then visible in the whole program, and nothing else has changed.

* `declarationOf`: the tokens of the declaration. Its check reports nothing and leaves a table with
  the one name (`Checker.check_declarationOf`), on which the check of the program starts.
* `undeclaredMessages`: the two messages on an undeclared use of a name. The records with one of
  them are those on its uses (`message_mem_undeclaredMessages_iff`).
* `SymbolTable.only`: the table with the one name. The frame outside of all blocks starts with it,
  and the frames of blocks are what they are without it (`snapshot_run_only`). -/

namespace BlockLang

/-- `type name = 1;`, with a line for each token. -/
def declarationOf (type name : String) (lines : Fin 5 → Int) : List Token :=
  [⟨.keyword, type, lines 0⟩, ⟨.identifier, name, lines 1⟩, ⟨.operator, "=", lines 2⟩,
    ⟨.number, "1", lines 3⟩, ⟨.semicolon, ";", lines 4⟩]

/-- The messages on undeclared uses of a name. -/
def undeclaredMessages (name : String) : List String :=
  ["Variable '" ++ name ++ "' used in initialization is not declared.",
    "Variable '" ++ name ++ "' is not declared."]

/-- The table with one name outside of all blocks. -/
def SymbolTable.only (name label : String) : SymbolTable := ⟨⟨[(name, label)]⟩, [], []⟩

variable {type name label : String} {lines : Fin 5 → Int} {sts : List Statement}

/-! ### The declaration -/

theorem statements_declarationOf (htype : type ∈ typeKeywords) :
    statements (declarationOf type name lines) =
      [.declaration ⟨.keyword, type, lines 0⟩ ⟨.identifier, name, lines 1⟩
        ⟨some ⟨.operator, "=", lines 2⟩, [⟨.number, "1", lines 3⟩],
          some ⟨.semicolon, ";", lines 4⟩⟩] := by
  have hkeyword : (⟨.keyword, type, lines 0⟩ : Token).isTypeKeyword = true :=
    decide_eq_true ⟨rfl, htype⟩
  have hname : (⟨.identifier, name, lines 1⟩ : Token).kind = .identifier := rfl
  have hbody : Body.Ends ⟨some ⟨.operator, "=", lines 2⟩, [⟨.number, "1", lines 3⟩],
      some ⟨.semicolon, ";", lines 4⟩⟩ [] := by
    refine ⟨?_, fun h => (by cases h), by simp, ?_, fun h => (by cases h)⟩
    · rintro u ⟨⟩
      rfl
    · rintro u ⟨⟩
      rfl
  exact (Items.declaration hkeyword hname hbody .nil).eq_statements.symm

theorem endsInSemicolon_declarationOf (type name : String) (lines : Fin 5 → Int) :
    EndsInSemicolon (declarationOf type name lines) := by
  rintro t ⟨⟩
  rfl

theorem kind_ne_of_mem_declarationOf (type name : String) (lines : Fin 5 → Int) :
    ∀ u ∈ declarationOf type name lines, u.kind ≠ .endOfInput := by
  simp [declarationOf]

theorem declare_empty (type name : String) :
    SymbolTable.declare {} type name = .only name (type ++ "-global") := by
  rw [SymbolTable.only, ← show label type .global = type ++ "-global" from String.append_assoc]
  rfl

/-- **The check of the declaration** reports nothing, and the table has its name. -/
theorem run_declarationOf (htype : type ∈ typeKeywords) (name : String) (lines : Fin 5 → Int) :
    CheckState.run ⟨{}, []⟩ (statements (declarationOf type name lines)) =
      ⟨.only name (type ++ "-global"), []⟩ := by
  rw [statements_declarationOf htype, ← declare_empty]
  rfl

theorem reportAll_declarationOf (htype : type ∈ typeKeywords) (hname : name.length = 1) :
    CheckState.reportAll ⟨{}, []⟩ (statements (declarationOf type name lines)) = [] := by
  rw [statements_declarationOf htype, CheckState.reportAll_singleton, CheckState.report, if_pos hname]
  rfl

/-! ### Records -/

/-- **The messages on undeclared uses of a name** are those of the findings on them. -/
theorem message_mem_undeclaredMessages_iff {f : Finding} :
    f.record.message ∈ undeclaredMessages name ↔
      f.problem.isUndeclaredUse (· == name) = true := by
  have hforms : f.record.message ∈ undeclaredMessages name ↔
      ∃ form, f.problem = .undeclared form name := by
    rw [undeclaredMessages, List.mem_pair]
    constructor
    · rintro (h | h)
      · exact ⟨.declaration, Problem.message_eq_undeclared_iff.mp h⟩
      · exact ⟨.assignment, Problem.message_eq_undeclared_iff.mp h⟩
    · rintro ⟨_ | _, h⟩
      · exact Or.inl (Problem.message_eq_undeclared_iff.mpr h)
      · exact Or.inr (Problem.message_eq_undeclared_iff.mpr h)
  rw [hforms]
  cases f.problem <;> simp [Problem.isUndeclaredUse]

/-! ### The program -/

theorem existsHere_only (name label y : String) :
    (SymbolTable.only name label).existsHere y = (y == name) := by
  show [name].contains y = (y == name)
  rw [List.contains_cons]
  exact Bool.or_false _

theorem isVisible_only (name label y : String) :
    (SymbolTable.only name label).isVisible y = (y == name) := by
  rw [← existsHere_only name label]
  exact Bool.or_false _

theorem contains_outermost_iff :
    (CheckState.run ⟨{}, []⟩ sts).table.snapshot.outermost.contains name = true ↔
      DeclaredIn sts none name := by
  rw [snapshot_run, Frame.contains_iff]
  exact mem_names_firstDeclarations

/-- **With the name declared up front, its undeclared uses are silent**, and nothing else changes. -/
theorem findings_check_only (label : String) {tokens : List Token}
    (hnew : ¬ DeclaredIn (statements (beforeEnd tokens)) none name) :
    (Checker.check ⟨tokens⟩ (.only name label)).findings =
      (Checker.check ⟨tokens⟩ {}).findings.filter
        fun f => !f.problem.isUndeclaredUse (· == name) := by
  have hvisible : ∀ y, (SymbolTable.only name label).isVisible y =
      (SymbolTable.isVisible {} y || y == name) := by
    intro y
    rw [isVisible_only]
    exact (Bool.false_or _).symm
  have hhere : ∀ y, DeclaredIn (statements (beforeEnd tokens)) none y →
      (SymbolTable.only name label).existsHere y = SymbolTable.existsHere {} y := by
    intro y hy
    rw [existsHere_only, beq_eq_false_iff_ne.mpr]
    · rfl
    · rintro rfl
      exact hnew hy
  have hunclosed : ∀ s : CheckState,
      s.unclosed.filter (fun f => !f.problem.isUndeclaredUse (· == name)) = s.unclosed := by
    intro s
    refine List.filter_eq_self.mpr fun f hf => ?_
    obtain ⟨brace, -, rfl⟩ := List.mem_map.mp hf
    rfl
  rw [Checker.check, Checker.check, List.filter_append, hunclosed,
    CheckState.reportAll_of_isVisible hvisible hhere, CheckState.unclosed, CheckState.unclosed,
    CheckState.openBraces_run_eq {}]

theorem blockFrame_only (hnew : ¬ DeclaredIn sts none name) (label : String) :
    blockFrame (.only name label) sts none =
      ⟨(name, label) :: firstDeclarations "-global" sts none⟩ := by
  have hother : ∀ e ∈ firstDeclarations "-global" sts none,
      (!(baseFrame (.only name label) none).contains e.1) = true := by
    intro e he
    have hne : e.1 ≠ name := by
      rintro rfl
      exact hnew (mem_names_firstDeclarations.mp (List.mem_map_of_mem he))
    rw [Bool.not_eq_true', ← beq_eq_false_iff_ne.mpr hne]
    exact existsHere_only name label e.1
  have hsuffix : labelSuffix (.only name label) none = "-global" := if_pos ⟨rfl, rfl⟩
  rw [blockFrame, hsuffix, List.filter_eq_self.mpr hother]
  rfl

/-- **The name comes first in the frame outside of all blocks**, and the other frames are the
same. -/
theorem snapshot_run_only (hnew : ¬ DeclaredIn sts none name) (label : String) :
    (CheckState.run ⟨.only name label, []⟩ sts).table.snapshot =
      { (CheckState.run ⟨{}, []⟩ sts).table.snapshot with
        outermost :=
          ⟨(name, label) :: (CheckState.run ⟨{}, []⟩ sts).table.snapshot.outermost.entries⟩ } := by
  have h := grown_run (.only name label) sts
  rw [snapshot_run, SymbolTable.snapshot_of_frames_eq h.frames_eq_append, h.archive,
    blockFrame_only hnew]
  simp only [blockFrame_some, declarationStructure, List.map_reverse]
  rfl

/-- **Declaring a name up front silences its undeclared uses and changes nothing else.** A program
does not declare the name outside of all blocks. With a declaration of the name before it, its check
reports the same records except for those on undeclared uses of the name, in the same order. The
frame outside of all blocks starts with the name, and is otherwise the same one, like all other
frames. -/
theorem check_of_declared_first {ts : List Token} (htype : type ∈ typeKeywords)
    (hname : name.length = 1) (hnew : ¬ DeclaredIn (statements (beforeEnd ts)) none name)
    (lines : Fin 5 → Int) :
    (Checker.check ⟨declarationOf type name lines ++ ts⟩ {}).findings.map Finding.record =
      ((Checker.check ⟨ts⟩ {}).findings.map Finding.record).filter
        (fun r => r.message ∉ undeclaredMessages name) ∧
    (Checker.check ⟨declarationOf type name lines ++ ts⟩ {}).table.snapshot =
      { (Checker.check ⟨ts⟩ {}).table.snapshot with
        outermost := ⟨(name, type ++ "-global") ::
          (Checker.check ⟨ts⟩ {}).table.snapshot.outermost.entries⟩ } := by
  have hrun := run_declarationOf htype name lines
  have hend := kind_ne_of_mem_declarationOf type name lines
  have hclosed : (CheckState.run ⟨{}, []⟩
      (statements (declarationOf type name lines))).openBraces = [] := by rw [hrun]
  rw [Checker.check_append hend (endsInSemicolon_declarationOf type name lines) hclosed,
    Checker.check_of_closed hend hclosed, reportAll_declarationOf htype hname, hrun,
    List.nil_append]
  refine ⟨?_, snapshot_run_only hnew _⟩
  dsimp only
  rw [findings_check_only _ hnew, List.filter_map]
  refine congrArg _ (List.filter_congr fun f _ => ?_)
  rw [Bool.eq_iff_iff, Bool.not_eq_true', Function.comp_apply, decide_eq_true_eq,
    message_mem_undeclaredMessages_iff, Bool.not_eq_true]

/-- Uses of `a` outside of all blocks and in one that declares it, and one of `b`. -/
def usesOfA : List Token :=
  [⟨.identifier, "a", 2⟩, ⟨.operator, "=", 2⟩, ⟨.identifier, "b", 2⟩, ⟨.semicolon, ";", 2⟩,
    ⟨.openBrace, "\x7b", 3⟩, ⟨.keyword, "int", 3⟩, ⟨.identifier, "c", 3⟩, ⟨.operator, "=", 3⟩,
    ⟨.identifier, "a", 3⟩, ⟨.semicolon, ";", 3⟩, ⟨.keyword, "char", 4⟩, ⟨.identifier, "a", 4⟩,
    ⟨.operator, "=", 4⟩, ⟨.identifier, "a", 4⟩, ⟨.semicolon, ";", 4⟩, ⟨.closeBrace, "\x7d", 4⟩,
    ⟨.keyword, "int", 5⟩, ⟨.identifier, "d", 5⟩, ⟨.operator, "=", 5⟩, ⟨.identifier, "a", 5⟩,
    ⟨.endOfInput, "", 5⟩]

/-- Before the declaration of `a`, three records are on its uses. -/
theorem check_of_declared_first_of_usesOfA :
    "bool" ∈ typeKeywords ∧ "a".length = 1 ∧
    ¬ DeclaredIn (statements (beforeEnd usesOfA)) none "a" ∧
    (Checker.check ⟨usesOfA⟩ {}).findings.map Finding.record =
      [⟨.semantic, some 2, "Variable 'a' is not declared."⟩,
       ⟨.semantic, some 2, "Variable 'b' is not declared."⟩,
       ⟨.semantic, some 3, "Variable 'a' used in initialization is not declared."⟩,
       ⟨.semantic, some 5, "Variable 'a' used in initialization is not declared."⟩,
       ⟨.semantic, some 5, "Missing semicolon after declaration of d"⟩] ∧
    (Checker.check ⟨declarationOf "bool" "a" (fun _ => 1) ++ usesOfA⟩ {}).findings.map
        Finding.record =
      [⟨.semantic, some 2, "Variable 'b' is not declared."⟩,
       ⟨.semantic, some 5, "Missing semicolon after declaration of d"⟩] ∧
    (Checker.check ⟨declarationOf "bool" "a" (fun _ => 1) ++ usesOfA⟩ {}).table.snapshot =
      ⟨⟨[("a", "bool-global"), ("d", "int-global")]⟩, [⟨[("c", "int-local"), ("a", "char-local")]⟩],
        []⟩ := by
  have htype : "bool" ∈ typeKeywords := by decide
  have hname : "a".length = 1 := by decide
  have hnew : ¬ DeclaredIn (statements (beforeEnd usesOfA)) none "a" := by
    rw [← contains_outermost_iff]
    decide +kernel
  obtain ⟨hrecords, hsnapshot⟩ := check_of_declared_first htype hname hnew fun _ => 1
  exact ⟨htype, hname, hnew, by decide +kernel, hrecords.trans (by decide +kernel),
    hsnapshot.trans (by decide +kernel)⟩

end BlockLang
