import BlockLang.Proofs.Checking.Items
import BlockLang.Checker
import Mathlib.Data.List.Basic
import Mathlib.Data.List.TakeWhile
import Mathlib.Logic.Equiv.Basic

/-! # Renaming

A check tells names apart by equality and looks at nothing in them but whether they are a single
character. So it commutes with every renaming that keeps both (`Checker.check_rename`): the table,
the findings and the events are the same ones with the names replaced.

* `Token.rename`: the lexeme of an identifier is replaced, and no other token changes.
* `Items.rename`: the statements of renamed tokens are the renamed statements.
* `SymbolTable.rename`: the names in all frames are replaced, in their places and with their labels.
  Every operation and every look-up commutes with it.
* `CheckState.step_rename`, `report_rename`, `trace_rename`: one statement. A whole check follows by
  induction on the statements. -/

namespace BlockLang

variable {f : String → String}

/-! ### Tokens and statements -/

namespace Token

/-- A token with its name replaced, if it is an identifier. -/
def rename (f : String → String) (t : Token) : Token :=
  if t.kind = .identifier then { t with lexeme := f t.lexeme } else t

variable {t : Token}

@[simp] theorem kind_rename : (t.rename f).kind = t.kind := by
  rw [rename]; split <;> rfl

@[simp] theorem line_rename : (t.rename f).line = t.line := by
  rw [rename]; split <;> rfl

theorem lexeme_rename (h : t.kind = .identifier) : (t.rename f).lexeme = f t.lexeme := by
  rw [rename, if_pos h]

theorem rename_of_ne (h : t.kind ≠ .identifier) : t.rename f = t := if_neg h

/-- What looks at the lexemes of other tokens only is the same for a renamed token. -/
theorem apply_rename {p : Token → Bool} (hp : ∀ u : Token, u.kind = .identifier → p u = false) :
    p (t.rename f) = p t := by
  by_cases h : t.kind = .identifier
  · rw [hp t h, hp _ (kind_rename.trans h)]
  · rw [rename_of_ne h]

@[simp] theorem isAssign_rename : (t.rename f).isAssign = t.isAssign :=
  apply_rename fun u hu => by rw [isAssign, hu]; rfl

@[simp] theorem isTypeKeyword_rename : (t.rename f).isTypeKeyword = t.isTypeKeyword :=
  apply_rename fun u hu => isTypeKeyword_of_kind_ne (by rw [hu]; decide)

end Token

namespace Body

/-- A body with its names replaced. -/
def rename (f : String → String) (b : Body) : Body where
  assign := b.assign.map (Token.rename f)
  value := b.value.map (Token.rename f)
  semicolon := b.semicolon.map (Token.rename f)

variable {b : Body}

theorem tokens_rename : (b.rename f).tokens = b.tokens.map (Token.rename f) := by
  rw [tokens, tokens, List.map_append, List.map_append]
  rcases b with ⟨_ | assign, value, _ | semicolon⟩ <;> rfl

theorem uses_rename : (b.rename f).uses = b.uses.map (Token.rename f) := by
  rw [uses, uses, rename, List.filter_map]
  congr 1
  refine List.filter_congr fun t _ => ?_
  rw [Function.comp_apply, Token.kind_rename]

theorem Ends.rename {rest : List Token} (h : b.Ends rest) :
    (b.rename f).Ends (rest.map (Token.rename f)) where
  assign := by
    rintro t ht
    obtain ⟨u, hu, rfl⟩ := Option.mem_map.mp ht
    rw [Token.isAssign_rename, h.assign u hu]
  no_assign := by
    rintro hn t ht
    rw [Body.rename, List.head?_map] at ht
    obtain ⟨u, hu, rfl⟩ := Option.mem_map.mp ht
    rw [Token.isAssign_rename, h.no_assign (Option.map_eq_none_iff.mp hn) u hu]
  value := by
    rintro t ht
    obtain ⟨u, hu, rfl⟩ := List.mem_map.mp ht
    rw [Token.kind_rename]
    exact h.value u hu
  semicolon := by
    rintro t ht
    obtain ⟨u, hu, rfl⟩ := Option.mem_map.mp ht
    rw [Token.kind_rename, h.semicolon u hu]
  no_semicolon := fun hn => by
    rw [h.no_semicolon (Option.map_eq_none_iff.mp hn)]; rfl

end Body

/-- A statement with its names replaced. -/
def Statement.rename (f : String → String) : Statement → Statement
  | openBlock brace => openBlock (brace.rename f)
  | closeBlock brace => closeBlock (brace.rename f)
  | declaration type name body => declaration (type.rename f) (name.rename f) (body.rename f)
  | loneType type => loneType (type.rename f)
  | assignment name body => assignment (name.rename f) (body.rename f)
  | other token => other (token.rename f)

/-- **Renamed tokens have the renamed statements.** -/
theorem Items.rename {tokens : List Token} {sts : List Statement} (h : Items tokens sts) :
    Items (tokens.map (Token.rename f)) (sts.map (Statement.rename f)) := by
  induction h with
  | nil => exact .nil
  | openBlock hb _ ih => exact .openBlock (Token.kind_rename.trans hb) ih
  | closeBlock hb _ ih => exact .closeBlock (Token.kind_rename.trans hb) ih
  | declaration ht hn hb _ ih =>
    rw [List.map_cons, List.map_cons, List.map_append, ← Body.tokens_rename]
    exact .declaration (Token.isTypeKeyword_rename.trans ht) (Token.kind_rename.trans hn)
      hb.rename ih
  | loneType ht hn _ ih =>
    refine .loneType (Token.isTypeKeyword_rename.trans ht) (fun t hm => ?_) ih
    rw [List.head?_map] at hm
    obtain ⟨u, hu, rfl⟩ := Option.mem_map.mp hm
    rw [Token.kind_rename]
    exact hn u hu
  | assignment hn hb _ ih =>
    rw [List.map_cons, List.map_append, ← Body.tokens_rename]
    exact .assignment (Token.kind_rename.trans hn) hb.rename ih
  | other ho hc hi ht _ ih =>
    refine .other ?_ ?_ ?_ (Token.isTypeKeyword_rename.trans ht) ih <;> rwa [Token.kind_rename]

theorem statements_rename (tokens : List Token) :
    statements (tokens.map (Token.rename f)) = (statements tokens).map (Statement.rename f) :=
  ((items_statements tokens).rename).eq_statements.symm

theorem beforeEnd_rename (tokens : List Token) :
    beforeEnd (tokens.map (Token.rename f)) = (beforeEnd tokens).map (Token.rename f) := by
  rw [beforeEnd, List.takeWhile_map, beforeEnd]
  simp only [Function.comp_def, Token.kind_rename]

theorem fromEnd_rename (tokens : List Token) :
    fromEnd (tokens.map (Token.rename f)) = (fromEnd tokens).map (Token.rename f) := by
  rw [fromEnd, List.dropWhile_map, fromEnd]
  simp only [Function.comp_def, Token.kind_rename]

/-! ### Tables -/

namespace Frame

/-- A frame with its names replaced. -/
def rename (f : String → String) (fr : Frame) : Frame := ⟨fr.entries.map fun e => (f e.1, e.2)⟩

theorem names_rename (fr : Frame) : (fr.rename f).names = fr.names.map f := by
  rw [names, names, rename, List.map_map, List.map_map]
  rfl

theorem contains_rename (hf : Function.Injective f) (fr : Frame) (x : String) :
    (fr.rename f).contains (f x) = fr.contains x := by
  rw [Bool.eq_iff_iff, contains_iff, contains_iff, names_rename, List.mem_map_of_injective hf]

theorem insertEntry_rename (hf : Function.Injective f) (x label : String) :
    ∀ es : List (String × String),
      insertEntry (f x) label (es.map fun e => (f e.1, e.2)) =
        (insertEntry x label es).map fun e => (f e.1, e.2)
  | [] => rfl
  | e :: es => by
    rw [List.map_cons, insertEntry, insertEntry]
    by_cases h : e.1 = x
    · rw [if_pos (congrArg f h), if_pos h, List.map_cons]
    · rw [if_neg fun he => h (hf he), if_neg h, List.map_cons, insertEntry_rename hf x label es]

theorem insert_rename (hf : Function.Injective f) (fr : Frame) (x label : String) :
    (fr.rename f).insert (f x) label = (fr.insert x label).rename f :=
  congrArg Frame.mk (insertEntry_rename hf x label fr.entries)

end Frame

/-- A snapshot with its names replaced. -/
def Snapshot.rename (f : String → String) (s : Snapshot) : Snapshot where
  outermost := s.outermost.rename f
  archived := s.archived.map (Frame.rename f)
  active := s.active.map (Frame.rename f)

namespace SymbolTable

/-- A table with its names replaced. -/
def rename (f : String → String) (t : SymbolTable) : SymbolTable where
  innermost := t.innermost.rename f
  enclosing := t.enclosing.map (Frame.rename f)
  archive := t.archive.map (Frame.rename f)

theorem frames_rename (t : SymbolTable) : (t.rename f).frames = t.frames.map (Frame.rename f) := rfl

theorem depth_rename (t : SymbolTable) : (t.rename f).depth = t.depth := by
  rw [depth, frames_rename, List.length_map, depth]

theorem visibility_rename (t : SymbolTable) : (t.rename f).visibility = t.visibility := by
  rw [visibility, depth_rename, visibility]

theorem existsHere_rename (hf : Function.Injective f) (t : SymbolTable) (x : String) :
    (t.rename f).existsHere (f x) = t.existsHere x := Frame.contains_rename hf _ _

theorem isVisible_rename (hf : Function.Injective f) (t : SymbolTable) (x : String) :
    (t.rename f).isVisible (f x) = t.isVisible x := by
  rw [isVisible, frames_rename, List.any_map, isVisible]
  simp only [Function.comp_def, Frame.contains_rename hf]

theorem enter_rename (t : SymbolTable) : (t.rename f).enter = t.enter.rename f := rfl

theorem exit_rename (t : SymbolTable) : (t.rename f).exit = t.exit.rename f := by
  obtain ⟨innermost, _ | ⟨g, gs⟩, archive⟩ := t
  · rfl
  · simp [exit, rename]

theorem declare_rename (hf : Function.Injective f) (t : SymbolTable) (type x : String) :
    (t.rename f).declare type (f x) = (t.declare type x).rename f := by
  rw [declare, declare, existsHere_rename hf, visibility_rename]
  split
  · rfl
  · rw [insert, insert, rename, Frame.insert_rename hf]
    rfl

theorem snapshot_rename (t : SymbolTable) :
    (t.rename f).snapshot = t.snapshot.rename f := by
  have houter : ((t.enclosing.map (Frame.rename f)).getLast?).getD (t.innermost.rename f) =
      ((t.enclosing.getLast?).getD t.innermost).rename f := by
    rw [List.getLast?_map, Option.getD_map]
  rw [snapshot, frames_rename, ← List.map_dropLast, ← List.map_reverse]
  exact congrArg (Snapshot.mk · _ _) houter

end SymbolTable

/-! ### Findings and events -/

/-- A problem with its name replaced, if it tells one. -/
def Problem.rename (f : String → String) : Problem → Problem
  | invalidName x => invalidName (f x)
  | redeclared x => redeclared (f x)
  | undeclared form x => undeclared form (f x)
  | missingAssign form x => missingAssign form (f x)
  | missingSemicolon form x => missingSemicolon form (f x)
  | p => p

/-- A finding with its name replaced, on the same line. -/
def Finding.rename (f : String → String) (x : Finding) : Finding := ⟨x.line, x.problem.rename f⟩

/-- An event with its name replaced, if it tells one. -/
def Event.rename (f : String → String) : Event → Event
  | declared x label => declared (f x) label
  | e => e

namespace CheckState

/-- The state of a check with its names replaced. -/
def rename (f : String → String) (s : CheckState) : CheckState :=
  ⟨s.table.rename f, s.openBraces.map (Token.rename f)⟩

theorem reportBody_rename (hf : Function.Injective f) (t : SymbolTable) (form : ValueForm)
    (line : Int) (x : String) (b : Body) :
    reportBody (t.rename f) form line (f x) (b.rename f) =
      (reportBody t form line x b).map (Finding.rename f) := by
  have huses : ((b.rename f).uses.filter fun u => !(t.rename f).isVisible u.lexeme).map
      (fun u => (⟨u.line, .undeclared form u.lexeme⟩ : Finding)) =
      ((b.uses.filter fun u => !t.isVisible u.lexeme).map fun u =>
        (⟨u.line, .undeclared form u.lexeme⟩ : Finding)).map (Finding.rename f) := by
    have hname : ∀ u ∈ b.uses, (u.rename f).lexeme = f u.lexeme := fun u hu =>
      Token.lexeme_rename (of_decide_eq_true (List.mem_filter.mp hu).2)
    rw [Body.uses_rename, List.filter_map, List.map_map, List.map_map]
    have hfilter : b.uses.filter ((fun u => !(t.rename f).isVisible u.lexeme) ∘ Token.rename f) =
        b.uses.filter fun u => !t.isVisible u.lexeme := by
      refine List.filter_congr fun u hu => ?_
      rw [Function.comp_apply, hname u hu, SymbolTable.isVisible_rename hf]
    rw [hfilter]
    refine List.map_congr_left fun u hu => ?_
    rw [Function.comp_apply, Function.comp_apply, hname u (List.mem_of_mem_filter hu),
      Token.line_rename]
    rfl
  rw [reportBody, huses, reportBody, List.map_append, List.map_append, Body.rename,
    Option.isSome_map, Option.isSome_map]
  split <;> split <;> rfl

variable {st : Statement}

theorem step_rename (hf : Function.Injective f) (s : CheckState) (h : st.IsFormed) :
    (s.rename f).step (st.rename f) = (s.step st).rename f := by
  cases st with
  | openBlock brace => rfl
  | closeBlock brace =>
    obtain ⟨t, _ | ⟨brace', braces⟩⟩ := s
    · rfl
    · exact congrArg (CheckState.mk · _) t.exit_rename
  | declaration type name body =>
    have htype : type.rename f = type :=
      Token.rename_of_ne (by rw [kind_of_isTypeKeyword h.1]; decide)
    have hdeclare := SymbolTable.declare_rename hf s.table type.lexeme name.lexeme
    rw [Statement.rename, htype, step, step, Token.lexeme_rename h.2]
    exact congrArg (CheckState.mk · _) hdeclare
  | _ => rfl

theorem report_rename (hf : Function.Injective f)
    (hlength : ∀ x, (f x).length = 1 ↔ x.length = 1) (s : CheckState) (h : st.IsFormed) :
    (s.rename f).report (st.rename f) = (s.report st).map (Finding.rename f) := by
  cases st with
  | declaration type name body =>
    have htype : type.rename f = type :=
      Token.rename_of_ne (by rw [kind_of_isTypeKeyword h.1]; decide)
    rw [Statement.rename, htype, report, report, Token.lexeme_rename h.2, Token.line_rename,
      rename, SymbolTable.existsHere_rename hf, SymbolTable.declare_rename hf,
      reportBody_rename hf, List.map_append, List.map_append]
    simp only [hlength]
    split <;> split <;> rfl
  | loneType type =>
    have htype : type.rename f = type :=
      Token.rename_of_ne (by rw [kind_of_isTypeKeyword h]; decide)
    rw [Statement.rename, htype]
    rfl
  | assignment name body =>
    rw [Statement.rename, report, report, Token.lexeme_rename h, Token.line_rename, rename,
      SymbolTable.isVisible_rename hf, reportBody_rename hf, List.map_append]
    split <;> rfl
  | _ => rfl

theorem trace_rename (hf : Function.Injective f) (s : CheckState) (h : st.IsFormed) :
    (s.rename f).trace (st.rename f) = (s.trace st).map (Event.rename f) := by
  cases st with
  | openBlock brace =>
    show [Event.enteredScope (s.table.rename f).enter.depth] = _
    rw [SymbolTable.enter_rename, SymbolTable.depth_rename]
    rfl
  | closeBlock brace =>
    rw [Statement.rename, trace, trace, rename, List.isEmpty_map, SymbolTable.events,
      SymbolTable.events, SymbolTable.exit_rename, SymbolTable.depth_rename,
      SymbolTable.depth_rename]
    split
    · rfl
    · split
      · simp [SymbolTable.rename, Frame.rename, Frame.size, Event.rename]
      · rfl
  | declaration type name body =>
    have htype : type.rename f = type :=
      Token.rename_of_ne (by rw [kind_of_isTypeKeyword h.1]; decide)
    rw [Statement.rename, htype, trace, trace, Token.lexeme_rename h.2, rename,
      SymbolTable.existsHere_rename hf, SymbolTable.visibility_rename]
    split <;> rfl
  | _ => rfl

/-! ### Whole checks -/

variable {sts : List Statement}

theorem run_rename (hf : Function.Injective f) (s : CheckState) (h : ∀ st ∈ sts, st.IsFormed) :
    (s.rename f).run (sts.map (Statement.rename f)) = (s.run sts).rename f := by
  induction sts generalizing s with
  | nil => rfl
  | cons st sts ih =>
    obtain ⟨hst, hsts⟩ := List.forall_mem_cons.mp h
    show ((s.rename f).step (st.rename f)).run _ = ((s.step st).run sts).rename f
    rw [step_rename hf s hst, ih _ hsts]

theorem reportAll_rename (hf : Function.Injective f)
    (hlength : ∀ x, (f x).length = 1 ↔ x.length = 1) (s : CheckState)
    (h : ∀ st ∈ sts, st.IsFormed) :
    (s.rename f).reportAll (sts.map (Statement.rename f)) =
      (s.reportAll sts).map (Finding.rename f) := by
  induction sts generalizing s with
  | nil => rfl
  | cons st sts ih =>
    obtain ⟨hst, hsts⟩ := List.forall_mem_cons.mp h
    rw [List.map_cons, reportAll, reportAll, report_rename hf hlength s hst, step_rename hf s hst,
      ih _ hsts, List.map_append]

theorem traceAll_rename (hf : Function.Injective f) (s : CheckState)
    (h : ∀ st ∈ sts, st.IsFormed) :
    (s.rename f).traceAll (sts.map (Statement.rename f)) =
      (s.traceAll sts).map (Event.rename f) := by
  induction sts generalizing s with
  | nil => rfl
  | cons st sts ih =>
    obtain ⟨hst, hsts⟩ := List.forall_mem_cons.mp h
    rw [List.map_cons, traceAll, traceAll, trace_rename hf s hst, step_rename hf s hst,
      ih _ hsts, List.map_append]

theorem unclosed_rename (s : CheckState) :
    (s.rename f).unclosed = s.unclosed.map (Finding.rename f) := by
  rw [unclosed, rename, List.map_map, unclosed, List.map_map]
  refine List.map_congr_left fun b _ => ?_
  rw [Function.comp_apply, Token.line_rename]
  rfl

end CheckState

/-- What a check gives, with the names replaced. -/
def CheckOutcome.rename (f : String → String) (o : CheckOutcome) : CheckOutcome where
  checker := ⟨o.checker.pending.map (Token.rename f)⟩
  table := o.table.rename f
  findings := o.findings.map (Finding.rename f)
  events := o.events.map (Event.rename f)

/-- **A check commutes with renaming**, from any table on. -/
theorem Checker.check_map_rename (hf : Function.Injective f)
    (hlength : ∀ x, (f x).length = 1 ↔ x.length = 1) (tokens : List Token) (t : SymbolTable) :
    Checker.check ⟨tokens.map (Token.rename f)⟩ (t.rename f) =
      (Checker.check ⟨tokens⟩ t).rename f := by
  have hformed := (items_statements (beforeEnd tokens)).isFormed
  have hstart : (⟨t.rename f, []⟩ : CheckState) = CheckState.rename f ⟨t, []⟩ := rfl
  rw [Checker.check, Checker.check, CheckOutcome.rename]
  dsimp only
  rw [beforeEnd_rename, fromEnd_rename, statements_rename, hstart,
    CheckState.run_rename hf _ hformed, CheckState.reportAll_rename hf hlength _ hformed,
    CheckState.traceAll_rename hf _ hformed, CheckState.unclosed_rename, List.map_append]
  rfl

/-- **Checks are equivariant.** Let a renaming keep names apart, and single characters apart from
longer names. On renamed tokens, from the renamed table on, a check is the same one with the names
replaced. So it reports the same problems on the same lines in the same order, each in the same
words with its name replaced, and it leaves the same frames: their order and their labels are the
same. -/
theorem check_of_renamed (hf : Function.Injective f)
    (hlength : ∀ x, (f x).length = 1 ↔ x.length = 1) (tokens : List Token) (t : SymbolTable) :
    Checker.check ⟨tokens.map (Token.rename f)⟩ (t.rename f) =
      (Checker.check ⟨tokens⟩ t).rename f ∧
    (Checker.check ⟨tokens.map (Token.rename f)⟩ (t.rename f)).findings.map Finding.record =
      (Checker.check ⟨tokens⟩ t).findings.map (fun x =>
        ⟨x.problem.kind, some x.line, (x.problem.rename f).message⟩) ∧
    (Checker.check ⟨tokens.map (Token.rename f)⟩ (t.rename f)).table.snapshot =
      (Checker.check ⟨tokens⟩ t).table.snapshot.rename f := by
  have hcheck := Checker.check_map_rename hf hlength tokens t
  refine ⟨hcheck, ?_, ?_⟩
  · rw [hcheck, CheckOutcome.rename, List.map_map]
    refine List.map_congr_left fun x _ => ?_
    obtain ⟨line, problem⟩ := x
    cases problem <;> rfl
  · rw [hcheck, CheckOutcome.rename, SymbolTable.snapshot_rename]

/-- `int a = b; { bool b = a; } xy = b` on three lines. -/
def shadowing : List Token :=
  [⟨.keyword, "int", 1⟩, ⟨.identifier, "a", 1⟩, ⟨.operator, "=", 1⟩, ⟨.identifier, "b", 1⟩,
   ⟨.semicolon, ";", 1⟩, ⟨.openBrace, "\x7b", 2⟩, ⟨.keyword, "bool", 2⟩, ⟨.identifier, "b", 2⟩,
   ⟨.operator, "=", 2⟩, ⟨.identifier, "a", 2⟩, ⟨.semicolon, ";", 2⟩, ⟨.closeBrace, "\x7d", 2⟩,
   ⟨.identifier, "xy", 3⟩, ⟨.operator, "=", 3⟩, ⟨.identifier, "b", 3⟩]

/-- With `a` and `b` exchanged, where `a` is already known. -/
theorem check_of_renamed_of_swap :
    Function.Injective (Equiv.swap "a" "b") ∧
    (∀ x, (Equiv.swap "a" "b" x).length = 1 ↔ x.length = 1) ∧
    (Checker.check ⟨shadowing.map (Token.rename (Equiv.swap "a" "b"))⟩
        (SymbolTable.rename (Equiv.swap "a" "b") ⟨⟨[("a", "int-global")]⟩, [], []⟩)).findings.map
          Finding.record =
      [⟨.semantic, some 1, "Variable 'b' already declared in this scope."⟩,
       ⟨.semantic, some 1, "Variable 'a' used in initialization is not declared."⟩,
       ⟨.semantic, some 3, "Variable 'xy' is not declared."⟩,
       ⟨.semantic, some 3, "Variable 'a' is not declared."⟩,
       ⟨.semantic, some 3, "Missing semicolon in assignment for variable xy"⟩] ∧
    (Checker.check ⟨shadowing.map (Token.rename (Equiv.swap "a" "b"))⟩ (SymbolTable.rename
        (Equiv.swap "a" "b") ⟨⟨[("a", "int-global")]⟩, [], []⟩)).table.snapshot =
      ⟨⟨[("b", "int-global")]⟩, [⟨[("a", "bool-local")]⟩], []⟩ := by
  have hf : Function.Injective (Equiv.swap "a" "b") := (Equiv.swap "a" "b").injective
  have hlength : ∀ x, (Equiv.swap "a" "b" x).length = 1 ↔ x.length = 1 := by
    intro x
    rw [Equiv.swap_apply_def]
    split
    · next h => rw [h]; decide
    split
    · next h => rw [h]; decide
    · rfl
  obtain ⟨-, hrecords, hsnapshot⟩ :=
    check_of_renamed hf hlength shadowing ⟨⟨[("a", "int-global")]⟩, [], []⟩
  exact ⟨hf, hlength, hrecords.trans (by decide +kernel), hsnapshot.trans (by decide +kernel)⟩

end BlockLang
