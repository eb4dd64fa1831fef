import BlockLang.Proofs.Checking.Frames

/-! # What a check takes from its table

Two checks of the same statements start on two tables. They differ only by what the tables tell of
names: which ones are visible, and which ones the innermost frame has.

* `Grown.isVisible_iff`, `Grown.existsHere_iff`: what the table tells after some statements, by the
  table of the start and by the declarations.
* `Problem.isUndeclaredUse`: a name of some set is used and not declared.
* `CheckState.reportAll_of_isVisible`: if further names are visible in the second table, its check
  reports the same but for their undeclared uses. So tables that tell the same of names have the
  same findings (`CheckState.reportAll_congr`). -/

namespace BlockLang

/-- A name of a set is used and not declared. -/
def Problem.isUndeclaredUse (names : String → Bool) : Problem → Bool
  | undeclared _ name => names name
  | _ => false

variable {t t' : SymbolTable} {sts : List Statement} {s s' : CheckState} {b : Option Nat}

/-! ### Looking names up -/

theorem SymbolTable.isVisible_declare (t : SymbolTable) (type name : String) {y : String} :
    (t.declare type name).isVisible y = true ↔ t.isVisible y = true ∨ name = y := by
  rw [isVisible, isVisible, frames, frames, enclosing_declare, List.any_cons, List.any_cons,
    Bool.or_eq_true, Bool.or_eq_true, contains_innermost_declare]
  exact or_right_comm

theorem contains_baseFrame {y : String} :
    (baseFrame t b).contains y = true ↔ b = none ∧ t.existsHere y = true := by
  cases b with
  | none => exact (and_iff_right rfl).symm
  | some p => exact iff_of_false Bool.false_ne_true fun h => by cases h.1

namespace Grown

/-- **A name is visible** iff it was visible at the start or is declared in an open block. -/
theorem isVisible_iff (h : Grown t sts s) (y : String) : s.table.isVisible y = true ↔
    t.isVisible y = true ∨ ∃ b ∈ blocks (openBlocks sts), DeclaredIn sts b y := by
  have hstart : t.isVisible y = true ↔
      t.existsHere y = true ∨ (t.enclosing.any fun f => f.contains y) = true := by
    rw [SymbolTable.isVisible, SymbolTable.frames, List.any_cons, Bool.or_eq_true]
    rfl
  have hnone : none ∈ blocks (openBlocks sts) := List.mem_append_right _ List.mem_cons_self
  rw [SymbolTable.isVisible, h.frames, List.any_append, List.any_map, Bool.or_eq_true,
    List.any_eq_true, hstart]
  simp only [Function.comp_apply, contains_blockFrame, contains_baseFrame]
  constructor
  · rintro (⟨b, hb, ⟨-, hhere⟩ | hd⟩ | henclosing)
    · exact Or.inl (Or.inl hhere)
    · exact Or.inr ⟨b, hb, hd⟩
    · exact Or.inl (Or.inr henclosing)
  · rintro ((hhere | henclosing) | ⟨b, hb, hd⟩)
    · exact Or.inl ⟨none, hnone, Or.inl ⟨rfl, hhere⟩⟩
    · exact Or.inr henclosing
    · exact Or.inl ⟨b, hb, Or.inr hd⟩

/-- **The innermost frame has a name** iff the name is declared in its block, or the block is the
outside of all blocks and the name was there at the start. -/
theorem existsHere_iff (h : Grown t sts s) (y : String) : s.table.existsHere y = true ↔
    ((openBlocks sts).head? = none ∧ t.existsHere y = true) ∨
      DeclaredIn sts (openBlocks sts).head? y := by
  have hinnermost := (List.cons.inj h.frames_eq_cons).1
  rw [SymbolTable.existsHere, hinnermost, contains_blockFrame, contains_baseFrame]

end Grown

namespace CheckState

/-! ### Open braces -/

theorem openBraces_run_eq (t t' : SymbolTable) (braces : List Token) (sts : List Statement) :
    (run ⟨t', braces⟩ sts).openBraces = (run ⟨t, braces⟩ sts).openBraces := by
  induction sts generalizing t t' braces with
  | nil => rfl
  | cons st sts ih =>
    cases st with
    | closeBlock brace => cases braces with
      | nil => exact ih t t' []
      | cons b braces => exact ih t.exit t'.exit braces
    | _ => exact ih _ _ _

/-! ### Findings -/

theorem reportAll_singleton (s : CheckState) (st : Statement) : s.reportAll [st] = s.report st :=
  List.append_nil _

variable {extra : String → Bool}

/-- With further names visible, a body is told the same but for their undeclared uses. -/
theorem reportBody_of_isVisible (hv : ∀ y, t'.isVisible y = (t.isVisible y || extra y))
    (form : ValueForm) (line : Int) (name : String) (body : Body) :
    reportBody t' form line name body = (reportBody t form line name body).filter
      fun f => !f.problem.isUndeclaredUse extra := by
  have huses : ((body.uses.filter fun u => !t.isVisible u.lexeme).map fun u =>
        (⟨u.line, .undeclared form u.lexeme⟩ : Finding)).filter
          (fun f => !f.problem.isUndeclaredUse extra) =
      (body.uses.filter fun u => !t'.isVisible u.lexeme).map fun u =>
        ⟨u.line, .undeclared form u.lexeme⟩ := by
    rw [List.filter_map, List.filter_filter]
    refine congrArg _ (List.filter_congr fun u _ => ?_)
    rw [hv, Bool.not_or, Bool.and_comm]
    rfl
  rw [reportBody, reportBody, List.filter_append, List.filter_append, huses]
  congr 1
  · congr 1
    split <;> rfl
  · split <;> rfl

/-- **With further names visible, a statement is told the same but for their undeclared uses**, if a
declared name is new in both tables or in none. -/
theorem report_of_isVisible {st : Statement}
    (hv : ∀ y, s'.table.isVisible y = (s.table.isVisible y || extra y))
    (hd : ∀ type name body, st = .declaration type name body →
      s'.table.existsHere name.lexeme = s.table.existsHere name.lexeme) :
    s'.report st = (s.report st).filter fun f => !f.problem.isUndeclaredUse extra := by
  cases st with
  | declaration type name body =>
    have hdeclare : ∀ y, (s'.table.declare type.lexeme name.lexeme).isVisible y =
        ((s.table.declare type.lexeme name.lexeme).isVisible y || extra y) := by
      intro y
      rw [Bool.eq_iff_iff, Bool.or_eq_true, SymbolTable.isVisible_declare,
        SymbolTable.isVisible_declare, hv, Bool.or_eq_true]
      exact or_right_comm
    rw [report, report, hd type name body rfl, reportBody_of_isVisible hdeclare,
      List.filter_append, List.filter_append]
    congr 2
    · split <;> rfl
    · split <;> rfl
  | assignment name body =>
    rw [report, report, reportBody_of_isVisible hv, List.filter_append, hv]
    congr 1
    cases s.table.isVisible name.lexeme with
    | true => rfl
    | false => cases h : extra name.lexeme <;> simp [Problem.isUndeclaredUse, h]
  | _ => rfl

/-- **With further names visible, a check reports the same but for their undeclared uses.** The
names that are declared outside of all blocks must be new in both tables or in none. -/
theorem reportAll_of_isVisible (hv : ∀ y, t'.isVisible y = (t.isVisible y || extra y))
    (hd : ∀ y, DeclaredIn sts none y → t'.existsHere y = t.existsHere y) :
    reportAll ⟨t', []⟩ sts =
      (reportAll ⟨t, []⟩ sts).filter fun f => !f.problem.isUndeclaredUse extra := by
  induction sts using List.reverseRecOn with
  | nil => rfl
  | append_singleton sts st ih =>
    have h := grown_run t sts
    have h' := grown_run t' sts
    have hvisible : ∀ y, (run ⟨t', []⟩ sts).table.isVisible y =
        ((run ⟨t, []⟩ sts).table.isVisible y || extra y) := by
      intro y
      rw [Bool.eq_iff_iff, Bool.or_eq_true, h'.isVisible_iff, h.isVisible_iff, hv, Bool.or_eq_true]
      exact or_right_comm
    have hhere : ∀ type name body, st = .declaration type name body →
        (run ⟨t', []⟩ sts).table.existsHere name.lexeme =
          (run ⟨t, []⟩ sts).table.existsHere name.lexeme := by
      rintro type name body rfl
      rw [Bool.eq_iff_iff, h'.existsHere_iff, h.existsHere_iff]
      refine or_congr_left (and_congr_right fun hnone => ?_)
      have hinnermost : IsInnermost sts none := isInnermost_iff_head?.mpr hnone.symm
      rw [hd _ (declaredIn_concat_declaration.mpr (Or.inr ⟨rfl, hinnermost⟩))]
    rw [reportAll_append, reportAll_append, List.filter_append,
      ih fun y hy => hd y (declaredIn_concat.mpr (Or.inl hy)), reportAll_singleton,
      reportAll_singleton, report_of_isVisible hvisible hhere]

/-- **Tables that tell the same of names have the same findings.** -/
theorem reportAll_congr (hv : ∀ y, t'.isVisible y = t.isVisible y)
    (hd : ∀ y, t'.existsHere y = t.existsHere y) (sts : List Statement) :
    reportAll ⟨t', []⟩ sts = reportAll ⟨t, []⟩ sts := by
  have hv' : ∀ y, t'.isVisible y = (t.isVisible y || false) := fun y => by rw [hv, Bool.or_false]
  have hnone : ∀ f ∈ reportAll ⟨t, []⟩ sts, (!f.problem.isUndeclaredUse fun _ => false) = true := by
    rintro ⟨line, problem⟩ -
    cases problem <;> rfl
  rw [reportAll_of_isVisible hv' fun y _ => hd y, List.filter_eq_self.mpr hnone]

end CheckState

end BlockLang
