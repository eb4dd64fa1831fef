import BlockLang.Proofs.Checking.Blocks
import BlockLang.Proofs.Checking.Items
import BlockLang.Proofs.Checking.Tables
import Mathlib.Data.List.Induction

/-! # What the checker reports, by position

A reference for the findings of a check that knows no symbol table. Statements are named by their
position in a list.

* `VisibleAt`: a name is declared by an earlier statement or by the statement itself, directly in a
  block that is still open there, or outside of all blocks.
* `RedeclaredAt`: a name is declared earlier and directly in the same block.
* `reference`: the findings on each statement, and then those on the blocks that are never closed.

The checker keeps one frame per open block. The frame of a block has the names that have been
declared directly in it so far (`Models`), so looking a name up is asking for its declaration. -/

namespace BlockLang

/-! ### Declarations by position -/

/-- Statement `j` declares a name. -/
def Declares (sts : List Statement) (j : Nat) (x : String) : Prop :=
  ∃ type name body, sts[j]? = some (.declaration type name body) ∧ name.lexeme = x

/-- **A name can be used in statement `i`.** -/
def VisibleAt (sts : List Statement) (i : Nat) (x : String) : Prop :=
  ∃ j ≤ i, Declares sts j x ∧
    ∃ b, IsInnermost (sts.take j) b ∧ ∀ p ∈ b, IsOpen (sts.take i) p

/-- **A name is declared in the block of statement `i` before it.** -/
def RedeclaredAt (sts : List Statement) (i : Nat) (x : String) : Prop :=
  ∃ j < i, Declares sts j x ∧
    ∃ b, IsInnermost (sts.take j) b ∧ IsInnermost (sts.take i) b

/-! ### Findings by position -/

open Classical in
/-- The findings on what follows the name in a declaration or assignment whose first token is on
`line`: a missing `=`, the names in the value that cannot be used, a missing semicolon. -/
noncomputable def bodyFindings (visible : String → Prop) (form : ValueForm) (line : Int)
    (name : String) (b : Body) : List Finding :=
  (if b.assign = none then [⟨line, .missingAssign form name⟩] else []) ++
  ((b.value.filter fun u => u.kind = .identifier ∧ ¬ visible u.lexeme).map fun u =>
    ⟨u.line, .undeclared form u.lexeme⟩) ++
  (if b.semicolon = none then [⟨line, .missingSemicolon form name⟩] else [])

open Classical in
/-- The findings on a statement. -/
noncomputable def statementFindings (visible redeclared : String → Prop) :
    Statement → List Finding
  | .declaration type name body =>
    (if name.lexeme.length ≠ 1 then [⟨name.line, .invalidName name.lexeme⟩] else []) ++
    (if redeclared name.lexeme then [⟨name.line, .redeclared name.lexeme⟩] else []) ++
    bodyFindings visible .declaration type.line name.lexeme body
  | .loneType type => [⟨type.line, .expectedName type.lexeme⟩]
  | .assignment name body =>
    (if visible name.lexeme then [] else [⟨name.line, .undeclared .assignment name.lexeme⟩]) ++
    bodyFindings visible .assignment name.line name.lexeme body
  | .openBlock _ | .closeBlock _ | .other _ => []

/-- The findings on statement `i`. -/
noncomputable def findingsAt (sts : List Statement) (i : Nat) : List Finding :=
  match sts[i]? with
  | some st => statementFindings (VisibleAt sts i) (RedeclaredAt sts i) st
  | none => []

/-- The finding on the block that starts at position `p` and is never closed. -/
def unclosedAt (sts : List Statement) (p : Nat) : List Finding :=
  match sts[p]? with
  | some (.openBlock brace) => [⟨brace.line, .unclosedBlock⟩]
  | _ => []

open Classical in
/-- **The findings on some statements**, and those on the blocks that are open at the end, innermost
first. -/
noncomputable def reference (sts : List Statement) : List Finding :=
  (List.range sts.length).flatMap (findingsAt sts) ++
    ((List.range sts.length).reverse.filter (IsOpen sts)).flatMap (unclosedAt sts)

variable {sts : List Statement} {st : Statement} {s : CheckState} {ps : List Nat} {x : String}

/-! ### One more statement -/

theorem declares_concat_of_lt {j : Nat} (h : j < sts.length) :
    Declares (sts ++ [st]) j x ↔ Declares sts j x := by
  unfold Declares
  rw [List.getElem?_append_left h]

theorem declares_concat_length :
    Declares (sts ++ [st]) sts.length x ↔
      ∃ type name body, st = .declaration type name body ∧ name.lexeme = x := by
  unfold Declares
  rw [List.getElem?_concat_length]
  simp only [Option.some.injEq]

theorem Declares.lt_length {j : Nat} (h : Declares sts j x) : j < sts.length := by
  obtain ⟨type, name, body, hg, -⟩ := h
  exact (List.getElem?_eq_some_iff.mp hg).1

theorem take_concat_of_le {i : Nat} (h : i ≤ sts.length) : (sts ++ [st]).take i = sts.take i :=
  List.take_append_of_le_length h

theorem findingsAt_concat_of_lt {i : Nat} (h : i < sts.length) :
    findingsAt (sts ++ [st]) i = findingsAt sts i := by
  have hv : VisibleAt (sts ++ [st]) i = VisibleAt sts i := by
    funext x
    refine propext (exists_congr fun j => and_congr_right fun hj => ?_)
    rw [declares_concat_of_lt (Nat.lt_of_le_of_lt hj h), take_concat_of_le (by omega),
      take_concat_of_le (by omega)]
  have hr : RedeclaredAt (sts ++ [st]) i = RedeclaredAt sts i := by
    funext x
    refine propext (exists_congr fun j => and_congr_right fun hj => ?_)
    rw [declares_concat_of_lt (by omega), take_concat_of_le (by omega),
      take_concat_of_le (by omega)]
  unfold findingsAt
  rw [List.getElem?_append_left h, hv, hr]

theorem flatMap_findingsAt_concat (sts : List Statement) (st : Statement) :
    (List.range (sts ++ [st]).length).flatMap (findingsAt (sts ++ [st])) =
      (List.range sts.length).flatMap (findingsAt sts) ++
        statementFindings (VisibleAt (sts ++ [st]) sts.length)
          (RedeclaredAt (sts ++ [st]) sts.length) st := by
  have hlast : findingsAt (sts ++ [st]) sts.length =
      statementFindings (VisibleAt (sts ++ [st]) sts.length)
        (RedeclaredAt (sts ++ [st]) sts.length) st := by
    rw [findingsAt, List.getElem?_concat_length]
  rw [List.length_append, List.length_singleton, List.range_succ, List.flatMap_append,
    List.flatMap_singleton, hlast]
  congr 1
  exact List.flatMap_congr fun i hi => findingsAt_concat_of_lt (List.mem_range.mp hi)

/-! ### Frames and blocks -/

/-- A name is declared directly in a block, or outside of all blocks. -/
def DeclaredIn (sts : List Statement) (b : Option Nat) (x : String) : Prop :=
  ∃ j, Declares sts j x ∧ IsInnermost (sts.take j) b

theorem declaredIn_concat {b : Option Nat} :
    DeclaredIn (sts ++ [st]) b x ↔ DeclaredIn sts b x ∨
      ((∃ type name body, st = .declaration type name body ∧ name.lexeme = x) ∧
        IsInnermost sts b) := by
  constructor
  · rintro ⟨j, hd, hb⟩
    have hlt := hd.lt_length
    rw [List.length_append, List.length_singleton] at hlt
    rw [take_concat_of_le (by omega)] at hb
    by_cases hj : j < sts.length
    · exact Or.inl ⟨j, (declares_concat_of_lt hj).mp hd, hb⟩
    · obtain rfl : j = sts.length := by omega
      rw [List.take_length] at hb
      exact Or.inr ⟨declares_concat_length.mp hd, hb⟩
  · rintro (⟨j, hd, hb⟩ | ⟨hd, hb⟩)
    · have hlt := hd.lt_length
      exact ⟨j, (declares_concat_of_lt hlt).mpr hd, by rw [take_concat_of_le (by omega)]; exact hb⟩
    · refine ⟨sts.length, declares_concat_length.mpr hd, ?_⟩
      rw [take_concat_of_le (Nat.le_refl _), List.take_length]
      exact hb

theorem declaredIn_concat_other (hd : ∀ type name body, st ≠ .declaration type name body)
    {b : Option Nat} : DeclaredIn (sts ++ [st]) b x ↔ DeclaredIn sts b x := by
  rw [declaredIn_concat]
  refine or_iff_left ?_
  rintro ⟨⟨type, name, body, he, -⟩, -⟩
  exact hd type name body he

theorem declaredIn_concat_declaration {type name : Token} {body : Body} {b : Option Nat} :
    DeclaredIn (sts ++ [.declaration type name body]) b x ↔
      DeclaredIn sts b x ∨ (name.lexeme = x ∧ IsInnermost sts b) := by
  rw [declaredIn_concat]
  refine or_congr_right (and_congr_left fun _ => ⟨?_, fun hx => ⟨type, name, body, rfl, hx⟩⟩)
  rintro ⟨_, _, _, he, hx⟩
  cases he
  exact hx

/-- The blocks of the frames, innermost first. The outermost frame belongs to none. -/
def blocks (ps : List Nat) : List (Option Nat) := ps.map some ++ [none]

/-- **The state of a check after some statements**: a frame for every open block, with the names
that are declared directly in it. -/
structure Models (sts : List Statement) (s : CheckState) (ps : List Nat) : Prop where
  stack : OpenStack sts ps
  braces : List.Forall₂ (fun p t => sts[p]? = some (.openBlock t)) ps s.openBraces
  names : s.table.HasNames (DeclaredIn sts) (blocks ps)

/-! ### Blocks of a stack -/

theorem blocks_eq_cons (ps : List Nat) : blocks ps = ps.head? :: (blocks ps).tail := by
  cases ps <;> rfl

theorem mem_blocks_iff (h : OpenStack sts ps) {b : Option Nat} :
    b ∈ blocks ps ↔ ∀ p ∈ b, IsOpen sts p := by
  rcases b with _ | p
  · simp [blocks]
  · simp [blocks, h.mem_iff]

theorem not_isInnermost_of_mem_tail (h : OpenStack sts ps) {b : Option Nat}
    (hb : b ∈ (blocks ps).tail) : ¬ IsInnermost sts b := by
  rw [h.isInnermost_iff]
  rintro rfl
  rcases ps with _ | ⟨p, ps⟩
  · cases hb
  · have hp : some p ∈ blocks ps := hb
    simp only [blocks, List.mem_append, List.mem_map, Option.some.injEq, exists_eq_right,
      List.mem_singleton, reduceCtorEq, or_false] at hp
    exact absurd ((List.pairwise_cons.mp h.sorted).1 p hp) (Nat.lt_irrefl p)

/-! ### The invariant -/

namespace Models

theorem nil : Models [] ⟨{}, []⟩ [] := by
  refine ⟨.nil, .nil, .empty fun x hx => ?_⟩
  obtain ⟨j, hd, -⟩ := hx
  exact absurd hd.lt_length (Nat.not_lt_zero j)

theorem braces_concat (h : Models sts s ps) (st : Statement) :
    List.Forall₂ (fun p t => (sts ++ [st])[p]? = some (.openBlock t)) ps s.openBraces := by
  refine h.braces.imp fun p t hp => ?_
  rw [List.getElem?_append_left (List.getElem?_eq_some_iff.mp hp).1]
  exact hp

theorem names_concat (h : Models sts s ps)
    (hd : ∀ type name body, st ≠ .declaration type name body) :
    s.table.HasNames (DeclaredIn (sts ++ [st])) (blocks ps) :=
  h.names.congr fun _ _ _ => declaredIn_concat_other hd

theorem concat_open (h : Models sts s ps) (t : Token) :
    Models (sts ++ [.openBlock t]) (s.step (.openBlock t)) (sts.length :: ps) := by
  refine ⟨h.stack.concat_open t, .cons List.getElem?_concat_length (h.braces_concat _),
    (h.names_concat fun _ _ _ he => (by cases he)).enter fun x hx => ?_⟩
  -- nothing has been declared in a block that starts only now
  obtain ⟨j, hj, hb⟩ := hx
  have hlt := hj.lt_length
  have hp := (hb.1 sts.length rfl).lt_length
  rw [List.length_append, List.length_singleton] at hlt
  rw [List.length_take] at hp
  omega

theorem concat_close (h : Models sts s ps) (t : Token) :
    Models (sts ++ [.closeBlock t]) (s.step (.closeBlock t)) ps.tail := by
  have hstack := h.stack.concat_close t
  have hbraces := h.braces_concat (.closeBlock t)
  have hne : ∀ type name body, Statement.closeBlock t ≠ .declaration type name body :=
    fun _ _ _ he => by cases he
  have hnames := h.names_concat hne
  obtain ⟨table, openBraces⟩ := s
  cases hbraces with
  | nil => exact ⟨hstack, .nil, hnames⟩
  | @cons p brace ps braces _ hbs =>
    refine ⟨hstack, hbs, ?_⟩
    rw [blocks, List.map_cons, List.cons_append, ← blocks, blocks_eq_cons] at hnames
    rw [List.tail_cons, blocks_eq_cons]
    exact hnames.exit

theorem concat_declaration (h : Models sts s ps) (type name : Token) (body : Body) :
    Models (sts ++ [.declaration type name body]) (s.step (.declaration type name body)) ps := by
  refine ⟨h.stack.concat_other rfl rfl, h.braces_concat _, ?_⟩
  have hnames := h.names
  rw [blocks_eq_cons] at hnames ⊢
  refine hnames.declare (fun x => ?_) fun b hb x => ?_
  · rw [declaredIn_concat_declaration, and_iff_left (h.stack.isInnermost_iff.mpr rfl)]
  · rw [declaredIn_concat_declaration,
      or_iff_left fun hx => not_isInnermost_of_mem_tail h.stack hb hx.2]

theorem concat_other (h : Models sts s ps) (ho : st.isOpening = false)
    (hc : st.isClosing = false) (hd : ∀ type name body, st ≠ .declaration type name body) :
    Models (sts ++ [st]) s ps :=
  ⟨h.stack.concat_other ho hc, h.braces_concat st, h.names_concat hd⟩

/-- **One more statement**: the state after it has the open blocks after it. -/
theorem concat (h : Models sts s ps) (st : Statement) :
    ∃ ps', Models (sts ++ [st]) (s.step st) ps' := by
  cases st with
  | openBlock t => exact ⟨_, h.concat_open t⟩
  | closeBlock t => exact ⟨_, h.concat_close t⟩
  | declaration type name body => exact ⟨_, h.concat_declaration type name body⟩
  | _ => exact ⟨_, h.concat_other rfl rfl fun _ _ _ he => (by cases he)⟩

/-! ### Looking names up -/

/-- **A name is found iff it can be used** in the last statement, where no block is opened or
closed by it. -/
theorem isVisible_iff (h : Models (sts ++ [st]) s ps) (hstack : OpenStack sts ps) (x : String) :
    s.table.isVisible x = true ↔ VisibleAt (sts ++ [st]) sts.length x := by
  rw [h.names.isVisible_iff]
  constructor
  · rintro ⟨b, hb, j, hd, hj⟩
    have hlt := hd.lt_length
    rw [List.length_append, List.length_singleton] at hlt
    refine ⟨j, by omega, hd, b, hj, ?_⟩
    rw [take_concat_of_le (Nat.le_refl _), List.take_length]
    exact (mem_blocks_iff hstack).mp hb
  · rintro ⟨j, -, hd, b, hj, hb⟩
    rw [take_concat_of_le (Nat.le_refl _), List.take_length] at hb
    exact ⟨b, (mem_blocks_iff hstack).mpr hb, j, hd, hj⟩

/-- **A name is found in the innermost frame iff it is declared in the same block.** -/
theorem existsHere_iff (h : Models sts s ps) (st : Statement) (x : String) :
    s.table.existsHere x = true ↔ RedeclaredAt (sts ++ [st]) sts.length x := by
  have hnames := h.names
  rw [blocks_eq_cons] at hnames
  rw [hnames.existsHere_iff]
  unfold RedeclaredAt
  rw [take_concat_of_le (Nat.le_refl _), List.take_length]
  constructor
  · rintro ⟨j, hd, hj⟩
    have hlt := hd.lt_length
    refine ⟨j, hlt, (declares_concat_of_lt hlt).mpr hd, ps.head?, ?_, ?_⟩
    · rw [take_concat_of_le (by omega)]; exact hj
    · exact h.stack.isInnermost_iff.mpr rfl
  · rintro ⟨j, hlt, hd, b, hj, hb⟩
    obtain rfl := h.stack.isInnermost_iff.mp hb
    rw [take_concat_of_le (by omega)] at hj
    exact ⟨j, (declares_concat_of_lt hlt).mp hd, hj⟩

end Models

/-! ### Reports -/

open Classical in
theorem reportBody_eq {t : SymbolTable} {visible : String → Prop}
    (hv : ∀ x, t.isVisible x = true ↔ visible x) (form : ValueForm) (line : Int) (name : String)
    (b : Body) :
    CheckState.reportBody t form line name b = bodyFindings visible form line name b := by
  have huses : b.uses.filter (fun u => !t.isVisible u.lexeme) =
      b.value.filter fun u => decide (u.kind = .identifier ∧ ¬ visible u.lexeme) := by
    rw [Body.uses, List.filter_filter]
    refine List.filter_congr fun u _ => ?_
    by_cases hu : visible u.lexeme
    · simp [hu, (hv _).mpr hu]
    · have hn := Bool.eq_false_iff.mpr fun h => hu ((hv u.lexeme).mp h)
      simp [hu, hn]
  rw [CheckState.reportBody, bodyFindings, huses]
  obtain ⟨assign, value, semicolon⟩ := b
  cases assign <;> cases semicolon <;> rfl

open Classical in
/-- **The report on a statement** is the one by position. -/
theorem Models.report_eq (h : Models sts s ps) (st : Statement) :
    s.report st = statementFindings (VisibleAt (sts ++ [st]) sts.length)
      (RedeclaredAt (sts ++ [st]) sts.length) st := by
  cases st with
  | declaration type name body =>
    have hv : ∀ x, (s.table.declare type.lexeme name.lexeme).isVisible x = true ↔
        VisibleAt (sts ++ [.declaration type name body]) sts.length x :=
      (h.concat_declaration type name body).isVisible_iff h.stack
    have hr := h.existsHere_iff (.declaration type name body) name.lexeme
    rw [CheckState.report, statementFindings, reportBody_eq hv]
    congr 2
    · split <;> simp_all
    · by_cases hx : s.table.existsHere name.lexeme = true
      · rw [if_pos hx, if_pos (hr.mp hx)]
      · rw [if_neg hx, if_neg fun h' => hx (hr.mpr h')]
  | assignment name body =>
    have hother : Models (sts ++ [.assignment name body]) s ps :=
      h.concat_other rfl rfl fun _ _ _ he => (by cases he)
    have hv := hother.isVisible_iff h.stack
    rw [CheckState.report, statementFindings, reportBody_eq hv]
    congr 1
    by_cases hx : s.table.isVisible name.lexeme = true
    · rw [if_pos hx, if_pos ((hv _).mp hx)]
    · rw [if_neg hx, if_neg fun h' => hx ((hv _).mpr h')]
  | _ => rfl

/-- **A whole check**: after any statements the state has their open blocks, and every statement
has been reported by its position. -/
theorem exists_models (sts : List Statement) :
    ∃ ps, Models sts (CheckState.run ⟨{}, []⟩ sts) ps ∧
      CheckState.reportAll ⟨{}, []⟩ sts =
        (List.range sts.length).flatMap (findingsAt sts) := by
  induction sts using List.reverseRecOn with
  | nil => exact ⟨[], .nil, rfl⟩
  | append_singleton sts st ih =>
    obtain ⟨ps, hm, hr⟩ := ih
    obtain ⟨ps', hm'⟩ := hm.concat st
    refine ⟨ps', ?_, ?_⟩
    · rw [CheckState.run_append]
      exact hm'
    · rw [CheckState.reportAll_append, hr, flatMap_findingsAt_concat, ← hm.report_eq st]
      simp [CheckState.reportAll]

theorem unclosed_of_braces
    (h : List.Forall₂ (fun p t => sts[p]? = some (.openBlock t)) ps s.openBraces) :
    s.unclosed = ps.flatMap (unclosedAt sts) := by
  rw [CheckState.unclosed]
  generalize s.openBraces = braces at h
  induction h with
  | nil => rfl
  | cons hp _ ih => rw [List.map_cons, List.flatMap_cons, ih, unclosedAt, hp]; rfl

open Classical in
/-- **The findings of a check are those by position.** A token list has items and only these, and a
check on an empty symbol table reports exactly the findings on each of them in order, and then the
blocks that are never closed, innermost first. -/
theorem findings_eq_reference (tokens : List Token) :
    ∃ sts, Items (beforeEnd tokens) sts ∧ (∀ sts', Items (beforeEnd tokens) sts' → sts' = sts) ∧
      (Checker.check ⟨tokens⟩ {}).findings = reference sts := by
  refine ⟨statements (beforeEnd tokens), items_statements _, fun _ h => h.eq_statements, ?_⟩
  obtain ⟨ps, hm, hr⟩ := exists_models (statements (beforeEnd tokens))
  rw [reference, hm.stack.eq_filter, ← unclosed_of_braces hm.braces, ← hr]
  rfl

end BlockLang
