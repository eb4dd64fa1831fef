import BlockLang.Proofs.Checking.Frames

/-! # Lines of findings

On which line each problem of a statement is told, for statements that go over any number of lines.

* `Statement.first`, `Statement.declared`, `Statement.used`: the tokens of a statement on whose lines
  problems are told.
* `Statement.LinesAt`: the findings on a statement are told on the line of its first token, with two
  exceptions. A name that is used without being declared is told on its own line, and the problems
  of a declared name on a line of their own, which is a parameter.
* `CheckState.reports`: the findings on some statements, one list for each of them.
* `lines_of_findings`: a check tells the problems of a declared name on the line of the name. They
  are on the line of the first token only if the name is on the line of its type. -/

namespace BlockLang

namespace Problem

/-- Whether a problem is one of the name that is declared. -/
def isOfDeclared : Problem → Bool
  | invalidName _ | redeclared _ => true
  | _ => false

/-- Whether a problem is one of a name that is used. -/
def isOfUsed : Problem → Bool
  | undeclared _ _ => true
  | _ => false

end Problem

/-! ### Tokens of a statement -/

namespace Statement

/-- The first token of a statement. -/
def first (st : Statement) : Token := st.tokens.head st.tokens_ne_nil

/-- The name that a statement declares. One that declares none stands for itself by its first
token. -/
def declared : Statement → Token
  | declaration _ name _ => name
  | st => st.first

/-- The names that a statement uses, in order. -/
def used : Statement → List Token
  | declaration _ _ body => body.uses
  | assignment name body => name :: body.uses
  | _ => []

/-- The form of a statement that uses names. -/
def form : Statement → ValueForm
  | declaration .. => .declaration
  | _ => .assignment

/-- **The lines of the findings on a statement**, where the problems of a declared name are told on
a given line. -/
structure LinesAt (st : Statement) (line : Int) (fs : List Finding) : Prop where
  first : ∀ f ∈ fs, f.problem.isOfDeclared = false → f.problem.isOfUsed = false →
    f.line = st.first.line
  declared : ∀ f ∈ fs, f.problem.isOfDeclared = true → f.line = line
  used : ∃ us : List Token, us.Sublist st.used ∧ fs.filter (·.problem.isOfUsed) =
    us.map fun u => ⟨u.line, .undeclared st.form u.lexeme⟩

end Statement

namespace CheckState

/-- The findings on some statements, one list for each of them. -/
def reports (s : CheckState) : List Statement → List (List Finding)
  | [] => []
  | st :: sts => s.report st :: (s.step st).reports sts

theorem flatten_reports : ∀ (s : CheckState) (sts : List Statement),
    (s.reports sts).flatten = s.reportAll sts
  | _, [] => rfl
  | s, st :: sts => by rw [reports, reportAll, List.flatten_cons, flatten_reports]

/-- The findings on a body are on the line of the first token, except those on the names in it. -/
theorem lines_reportBody (t : SymbolTable) (form : ValueForm) (line : Int) (name : String)
    (b : Body) :
    (∀ f ∈ reportBody t form line name b, f.problem.isOfDeclared = false ∧
      (f.problem.isOfUsed = false → f.line = line)) ∧
    (reportBody t form line name b).filter (·.problem.isOfUsed) =
      (b.uses.filter fun u => !t.isVisible u.lexeme).map fun u =>
        ⟨u.line, .undeclared form u.lexeme⟩ := by
  constructor
  · intro f hf
    rcases mem_reportBody hf with rfl | rfl | ⟨u, -, rfl⟩
    · exact ⟨rfl, fun _ => rfl⟩
    · exact ⟨rfl, fun _ => rfl⟩
    · exact ⟨rfl, fun h => (by cases h)⟩
  · have hassign : (if b.assign.isSome = true then []
        else [(⟨line, .missingAssign form name⟩ : Finding)]).filter (·.problem.isOfUsed) = [] := by
      split <;> rfl
    have hsemicolon : (if b.semicolon.isSome = true then []
        else [(⟨line, .missingSemicolon form name⟩ : Finding)]).filter (·.problem.isOfUsed) = [] := by
      split <;> rfl
    rw [reportBody, List.filter_append, List.filter_append, hassign, hsemicolon, List.nil_append,
      List.append_nil, List.filter_eq_self]
    intro f hf
    obtain ⟨u, -, rfl⟩ := List.mem_map.mp hf
    rfl

theorem linesAt_declaration (s : CheckState) (type name : Token) (body : Body) :
    (Statement.declaration type name body).LinesAt name.line
      (s.report (.declaration type name body)) := by
  obtain ⟨hbody, hused⟩ := lines_reportBody (s.table.declare type.lexeme name.lexeme) .declaration
    type.line name.lexeme body
  have hmem : ∀ f ∈ s.report (.declaration type name body),
      (f.problem.isOfDeclared = true ∧ f.line = name.line) ∨
        f ∈ reportBody (s.table.declare type.lexeme name.lexeme) .declaration type.line
          name.lexeme body := by
    intro f hf
    rcases mem_report_declaration hf with rfl | rfl | hf
    · exact Or.inl ⟨rfl, rfl⟩
    · exact Or.inl ⟨rfl, rfl⟩
    · exact Or.inr hf
  refine ⟨fun f hf hd hu => ?_, fun f hf hd => ?_,
    body.uses.filter fun u => !(s.table.declare type.lexeme name.lexeme).isVisible u.lexeme,
    List.filter_sublist, ?_⟩
  · rcases hmem f hf with ⟨h, -⟩ | h
    · rw [hd] at h; cases h
    · exact (hbody f h).2 hu
  · rcases hmem f hf with ⟨-, h⟩ | h
    · exact h
    · rw [(hbody f h).1] at hd; cases hd
  · rw [report, List.filter_append, List.filter_append, hused]
    split <;> split <;> rfl

theorem linesAt_assignment (s : CheckState) (name : Token) (body : Body) :
    (Statement.assignment name body).LinesAt name.line (s.report (.assignment name body)) := by
  obtain ⟨hbody, hused⟩ := lines_reportBody s.table .assignment name.line name.lexeme body
  have hmem : ∀ f ∈ s.report (.assignment name body), f.problem.isOfDeclared = false ∧
      (f.problem.isOfUsed = false → f.line = name.line) := by
    intro f hf
    rcases mem_report_assignment hf with rfl | hf
    · exact ⟨rfl, fun h => (by cases h)⟩
    · exact hbody f hf
  refine ⟨fun f hf _ hu => (hmem f hf).2 hu, fun f hf hd => ?_,
    (name :: body.uses).filter fun u => !s.table.isVisible u.lexeme, List.filter_sublist, ?_⟩
  · rw [(hmem f hf).1] at hd; cases hd
  · rw [report, List.filter_append, hused, List.filter_cons]
    cases s.table.isVisible name.lexeme <;> rfl

/-- **The findings on a statement** are on the line of its first token, those on a declared name on
the line of the name, and those on a used name on the line of that. -/
theorem linesAt_report (s : CheckState) (st : Statement) :
    st.LinesAt st.declared.line (s.report st) := by
  cases st with
  | declaration type name body => exact s.linesAt_declaration type name body
  | assignment name body => exact s.linesAt_assignment name body
  | loneType type =>
    refine ⟨fun f hf _ _ => ?_, fun f hf hd => ?_, [], List.nil_sublist _, rfl⟩
    · rw [List.mem_singleton.mp hf]; rfl
    · rw [List.mem_singleton.mp hf] at hd; cases hd
  | _ => exact ⟨fun f hf => absurd hf List.not_mem_nil, fun f hf => absurd hf List.not_mem_nil,
      [], List.nil_sublist _, rfl⟩

theorem linesAt_reports : ∀ (s : CheckState) (sts : List Statement),
    List.Forall₂ (fun st fs => st.LinesAt st.declared.line fs) sts (s.reports sts)
  | _, [] => .nil
  | s, st :: sts => .cons (s.linesAt_report st) ((s.step st).linesAt_reports sts)

end CheckState

/-- The findings on a statement keep to its first token iff its name is there too, or has no
problem. -/
theorem Statement.LinesAt.first_iff {st : Statement} {fs : List Finding}
    (h : st.LinesAt st.declared.line fs) : st.LinesAt st.first.line fs ↔
      ((∃ f ∈ fs, f.problem.isOfDeclared = true) → st.declared.line = st.first.line) := by
  constructor
  · rintro hfirst ⟨f, hf, hd⟩
    rw [← h.declared f hf hd, hfirst.declared f hf hd]
  · intro hline
    refine ⟨h.first, fun f hf hd => ?_, h.used⟩
    rw [h.declared f hf hd, hline ⟨f, hf, hd⟩]

/-- **The lines of the findings of a check.** The findings are those on the statements in order, and
then one for each block that stays open, on the line of its brace. On a statement they are on the
line of the first token, except those on a name, which are on the line of the name; so all of them
but those on used names keep to the first token iff the name that is declared is on its line too, or
has no problem. -/
theorem lines_of_findings (tokens : List Token) (t : SymbolTable) :
    ∃ sts, Items (beforeEnd tokens) sts ∧
      (Checker.check ⟨tokens⟩ t).findings =
        (CheckState.reports ⟨t, []⟩ sts).flatten ++ (openBlocks sts).flatMap (unclosedAt sts) ∧
      List.Forall₂ (fun st fs => st.LinesAt st.declared.line fs ∧
          (st.LinesAt st.first.line fs ↔
            ((∃ f ∈ fs, f.problem.isOfDeclared = true) → st.declared.line = st.first.line)))
        sts (CheckState.reports ⟨t, []⟩ sts) := by
  refine ⟨statements (beforeEnd tokens), items_statements _, ?_, ?_⟩
  · rw [CheckState.flatten_reports,
      ← unclosed_of_braces (grown_run t (statements (beforeEnd tokens))).braces]
    rfl
  · exact (CheckState.linesAt_reports _ _).imp fun st fs h => ⟨h, h.first_iff⟩

/-- Two declarations whose names are on the line after their types. -/
def splitDeclarations : List Token :=
  [⟨.keyword, "int", 1⟩, ⟨.identifier, "ab", 2⟩, ⟨.operator, "=", 2⟩, ⟨.number, "1", 2⟩,
   ⟨.semicolon, ";", 2⟩, ⟨.keyword, "int", 3⟩, ⟨.identifier, "ab", 4⟩, ⟨.operator, "=", 4⟩,
   ⟨.number, "2", 4⟩, ⟨.semicolon, ";", 4⟩, ⟨.endOfInput, "", 4⟩]

/-- The problems of a declared name are not told on the line of the first token. -/
theorem findings_splitDeclarations :
    (Checker.check ⟨splitDeclarations⟩ {}).findings =
        [⟨2, .invalidName "ab"⟩, ⟨4, .invalidName "ab"⟩, ⟨4, .redeclared "ab"⟩] ∧
      ¬ List.Forall₂ (fun st fs => st.LinesAt st.first.line fs)
        (statements (beforeEnd splitDeclarations))
        (CheckState.reports ⟨{}, []⟩ (statements (beforeEnd splitDeclarations))) := by
  have hsts : statements (beforeEnd splitDeclarations) =
      [.declaration ⟨.keyword, "int", 1⟩ ⟨.identifier, "ab", 2⟩
        ⟨some ⟨.operator, "=", 2⟩, [⟨.number, "1", 2⟩], some ⟨.semicolon, ";", 2⟩⟩,
       .declaration ⟨.keyword, "int", 3⟩ ⟨.identifier, "ab", 4⟩
        ⟨some ⟨.operator, "=", 4⟩, [⟨.number, "2", 4⟩], some ⟨.semicolon, ";", 4⟩⟩] := by
    decide +kernel
  refine ⟨by decide +kernel, fun h => ?_⟩
  rw [hsts] at h
  cases h with
  | cons hfirst _ => exact absurd (hfirst.declared ⟨2, .invalidName "ab"⟩ (by decide) rfl) (by decide)

end BlockLang
