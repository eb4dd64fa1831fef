import BlockLang.Checker
import BlockLang.Proofs.Checking.Items
import BlockLang.Proofs.Checking.Tables

/-! # The grammar of programs

A program is derived by

* `program ::= (item | '}')*`
* `item ::= '{' item* '}' | type x '=' value ';' | y '=' value ';' | t`

where a `value` is any tokens without `;`, `t` is a token that starts none of the other forms, `x`
is a single letter that is new in its block, and `y` and the names in a value are declared before,
in the block or around it. `Derives` carries the names that are declared so far, block by block.

The checker reports nothing on a derived program (`Derives.silent`), and whatever it reports nothing
on is derived (`silent_complete`): what is left to check behind some open blocks is the rest of each
of them with its closing brace, and then the rest of the program (`Rest`). -/

namespace BlockLang

/-! ### Derivations -/

/-- Where items stand: in a program outside of all blocks, or in a block. -/
inductive Nesting
  | program
  | block
  deriving DecidableEq, Repr

/-- A name is declared in one of some scopes. -/
def Known (scopes : List (List String)) (x : String) : Prop := ∃ names ∈ scopes, x ∈ names

/-- The tokens of a value: no semicolon, and only names that are known. -/
structure IsValue (scopes : List (List String)) (value : List Token) : Prop where
  plain : ∀ t ∈ value, t.kind ≠ .semicolon ∧ t.kind ≠ .endOfInput
  known : ∀ u ∈ value, u.kind = .identifier → Known scopes u.lexeme

/-- **Tokens that are derived** as items of a block or program, where `here` are the names that the
block has declared before them, and `outer` those of the blocks around it, innermost first. -/
inductive Derives : Nesting → List String → List (List String) → List Token → Prop
  | nil {nesting : Nesting} {here : List String} {outer : List (List String)} :
      Derives nesting here outer []
  | declaration {nesting : Nesting} {here : List String} {outer : List (List String)}
      {type name assign semicolon : Token} {value rest : List Token} :
      type.isTypeKeyword = true → name.kind = .identifier → name.lexeme.length = 1 →
      name.lexeme ∉ here → assign.isAssign = true →
      IsValue ((name.lexeme :: here) :: outer) value → semicolon.kind = .semicolon →
      Derives nesting (name.lexeme :: here) outer rest →
      Derives nesting here outer (type :: name :: assign :: (value ++ semicolon :: rest))
  | assignment {nesting : Nesting} {here : List String} {outer : List (List String)}
      {name assign semicolon : Token} {value rest : List Token} :
      name.kind = .identifier → Known (here :: outer) name.lexeme → assign.isAssign = true →
      IsValue (here :: outer) value → semicolon.kind = .semicolon →
      Derives nesting here outer rest →
      Derives nesting here outer (name :: assign :: (value ++ semicolon :: rest))
  | other {nesting : Nesting} {here : List String} {outer : List (List String)} {t : Token}
      {rest : List Token} :
      t.kind ≠ .openBrace → t.kind ≠ .closeBrace → t.kind ≠ .identifier →
      t.isTypeKeyword = false → Derives nesting here outer rest →
      Derives nesting here outer (t :: rest)
  | block {nesting : Nesting} {here : List String} {outer : List (List String)}
      {opening closing : Token} {body rest : List Token} :
      opening.kind = .openBrace → closing.kind = .closeBrace →
      Derives .block [] (here :: outer) body → Derives nesting here outer rest →
      Derives nesting here outer (opening :: (body ++ closing :: rest))
  | stray {here : List String} {outer : List (List String)} {brace : Token} {rest : List Token} :
      brace.kind = .closeBrace → Derives .program here outer rest →
      Derives .program here outer (brace :: rest)

/-! ### Scopes of a state -/

/-- A state has an open frame for each of some scopes, with its names, and each but the outermost
one belongs to an open brace. -/
structure InScopes (s : CheckState) (scopes : List (List String)) : Prop where
  names : s.table.HasNames (fun names x => x ∈ names) scopes
  braces : s.openBraces.length + 1 = scopes.length

namespace InScopes

variable {s : CheckState} {here : List String} {scopes outer : List (List String)}

theorem nil : InScopes ⟨{}, []⟩ [[]] := ⟨.empty fun _ => List.not_mem_nil, rfl⟩

theorem exists_cons (h : InScopes s scopes) : ∃ here outer, scopes = here :: outer := by
  rcases scopes with _ | ⟨here, outer⟩
  · cases h.braces
  · exact ⟨here, outer, rfl⟩

theorem isVisible_iff (h : InScopes s scopes) (x : String) :
    s.table.isVisible x = true ↔ Known scopes x := h.names.isVisible_iff x

theorem existsHere_iff (h : InScopes s (here :: outer)) (x : String) :
    s.table.existsHere x = true ↔ x ∈ here := h.names.existsHere_iff x

theorem openBraces_eq_nil (h : InScopes s [here]) : s.openBraces = [] :=
  List.length_eq_zero_iff.mp (Nat.succ.inj h.braces)

theorem step_open (h : InScopes s scopes) (t : Token) :
    InScopes (s.step (.openBlock t)) ([] :: scopes) :=
  ⟨h.names.enter fun _ => List.not_mem_nil, congrArg Nat.succ h.braces⟩

theorem step_close {names : List String} (h : InScopes s (here :: names :: outer)) (t : Token) :
    InScopes (s.step (.closeBlock t)) (names :: outer) := by
  obtain ⟨table, _ | ⟨brace, braces⟩⟩ := s
  · cases h.braces
  · exact ⟨h.names.exit, Nat.succ.inj h.braces⟩

theorem step_stray (h : InScopes s [here]) (t : Token) : s.step (.closeBlock t) = s := by
  rw [CheckState.step, h.openBraces_eq_nil]

theorem step_declaration (h : InScopes s (here :: outer)) (type name : Token) (body : Body) :
    InScopes (s.step (.declaration type name body)) ((name.lexeme :: here) :: outer) := by
  refine ⟨h.names.declare (fun x => ?_) fun _ _ _ => Iff.rfl, h.braces⟩
  rw [List.mem_cons, or_comm, @eq_comm _ x]

end InScopes

/-! ### When nothing is reported -/

/-- A body that has its sign and its semicolon, and uses only names that are known. -/
structure Body.IsComplete (scopes : List (List String)) (b : Body) : Prop where
  assign : b.assign.isSome = true
  known : ∀ u ∈ b.value, u.kind = .identifier → Known scopes u.lexeme
  semicolon : b.semicolon.isSome = true

namespace InScopes

variable {s : CheckState} {here : List String} {scopes outer : List (List String)} {body : Body}

theorem reportBody_eq_nil_iff (h : InScopes s scopes) {form : ValueForm} {line : Int}
    {name : String} :
    CheckState.reportBody s.table form line name body = [] ↔ body.IsComplete scopes := by
  have huses : (body.uses.filter fun u => !s.table.isVisible u.lexeme) = [] ↔
      ∀ u ∈ body.value, u.kind = .identifier → Known scopes u.lexeme := by
    simp only [List.filter_eq_nil_iff, Body.uses, List.mem_filter, decide_eq_true_eq, and_imp,
      Bool.not_eq_true, Bool.not_eq_false', h.isVisible_iff]
  rw [CheckState.reportBody, List.append_eq_nil_iff, List.append_eq_nil_iff, List.map_eq_nil_iff,
    huses, ite_eq_left_iff, ite_eq_left_iff]
  constructor
  · rintro ⟨⟨ha, hk⟩, hs⟩
    exact ⟨not_not.mp fun hn => List.cons_ne_nil _ _ (ha hn), hk,
      not_not.mp fun hn => List.cons_ne_nil _ _ (hs hn)⟩
  · rintro ⟨ha, hk, hs⟩
    exact ⟨⟨absurd ha, hk⟩, absurd hs⟩

theorem report_declaration_eq_nil_iff (h : InScopes s (here :: outer)) {type name : Token} :
    s.report (.declaration type name body) = [] ↔ name.lexeme.length = 1 ∧ name.lexeme ∉ here ∧
      body.IsComplete ((name.lexeme :: here) :: outer) := by
  have hbody : CheckState.reportBody (s.table.declare type.lexeme name.lexeme) .declaration
      type.line name.lexeme body = [] ↔ body.IsComplete ((name.lexeme :: here) :: outer) :=
    (h.step_declaration type name body).reportBody_eq_nil_iff
  rw [CheckState.report, List.append_eq_nil_iff, List.append_eq_nil_iff, hbody, and_assoc,
    ← h.existsHere_iff]
  simp

theorem report_assignment_eq_nil_iff (h : InScopes s scopes) {name : Token} :
    s.report (.assignment name body) = [] ↔
      Known scopes name.lexeme ∧ body.IsComplete scopes := by
  rw [CheckState.report, List.append_eq_nil_iff, h.reportBody_eq_nil_iff, ← h.isVisible_iff]
  simp

end InScopes

/-! ### Derived programs are silent -/

theorem IsValue.ends {scopes : List (List String)} {value : List Token}
    (h : IsValue scopes value) {assign semicolon : Token} (ha : assign.isAssign = true)
    (hs : semicolon.kind = .semicolon) (rest : List Token) :
    Body.Ends ⟨some assign, value, some semicolon⟩ rest := by
  refine ⟨fun t ht => ?_, fun hn => (by cases hn), fun t ht => (h.plain t ht).1, fun t ht => ?_,
    fun hn => (by cases hn)⟩
  · cases ht; exact ha
  · cases ht; exact hs

/-- **Some statements are silent** in some scopes: nothing is reported on them, and they leave the
scopes around them as they were. -/
def Silent (sts : List Statement) (here : List String) (outer : List (List String)) : Prop :=
  ∀ s, InScopes s (here :: outer) →
    s.reportAll sts = [] ∧ ∃ here', InScopes (s.run sts) (here' :: outer)

theorem Silent.cons {st : Statement} {sts : List Statement} {here here' : List String}
    {outer : List (List String)}
    (h : ∀ s, InScopes s (here :: outer) → s.report st = [] ∧
      InScopes (s.step st) (here' :: outer)) (hs : Silent sts here' outer) :
    Silent (st :: sts) here outer := by
  intro s hi
  obtain ⟨hr, hi'⟩ := h s hi
  obtain ⟨hr', hend⟩ := hs _ hi'
  exact ⟨by rw [CheckState.reportAll, hr, hr']; rfl, hend⟩

theorem Silent.block {sts sts' : List Statement} {here : List String}
    {outer : List (List String)} (h : Silent sts [] (here :: outer)) (h' : Silent sts' here outer)
    (opening closing : Token) :
    Silent (.openBlock opening :: (sts ++ .closeBlock closing :: sts')) here outer := by
  intro s hi
  obtain ⟨hr, names, hend⟩ := h _ (hi.step_open opening)
  obtain ⟨hr', hend'⟩ := h' _ (hend.step_close closing)
  refine ⟨?_, ?_⟩
  · rw [CheckState.reportAll, CheckState.reportAll_append, hr, CheckState.reportAll, hr']; rfl
  · have hrun : s.run (.openBlock opening :: (sts ++ .closeBlock closing :: sts')) =
        ((((s.step (.openBlock opening)).run sts).step (.closeBlock closing)).run sts') := by
      show (s.step (.openBlock opening)).run (sts ++ .closeBlock closing :: sts') = _
      rw [CheckState.run_append]; rfl
    rw [hrun]
    exact hend'

/-- **What is derived is silent.** Its items are the same whatever comes after it. -/
theorem Derives.silent {nesting : Nesting} {here : List String} {outer : List (List String)}
    {tokens : List Token} (h : Derives nesting here outer tokens)
    (ho : nesting = .program → outer = []) :
    ∃ sts, (∀ rest sts', Items rest sts' → Items (tokens ++ rest) (sts ++ sts')) ∧
      Silent sts here outer := by
  induction h with
  | nil => exact ⟨[], fun _ _ hi => hi, fun s hi => ⟨rfl, _, hi⟩⟩
  | @declaration _ here outer type name assign semicolon value rest ht hn hl hnew ha hv hs _ ih =>
    obtain ⟨sts, hitems, hsilent⟩ := ih ho
    refine ⟨.declaration type name ⟨some assign, value, some semicolon⟩ :: sts, ?_, ?_⟩
    · intro rest' sts' hi
      have hd := Items.declaration ht hn (hv.ends ha hs (rest ++ rest')) (hitems rest' sts' hi)
      simpa [Body.tokens] using hd
    · refine .cons (fun s hi => ⟨?_, hi.step_declaration type name _⟩) hsilent
      exact hi.report_declaration_eq_nil_iff.mpr ⟨hl, hnew, rfl, hv.known, rfl⟩
  | @assignment _ here outer name assign semicolon value rest hn hk ha hv hs _ ih =>
    obtain ⟨sts, hitems, hsilent⟩ := ih ho
    refine ⟨.assignment name ⟨some assign, value, some semicolon⟩ :: sts, ?_, ?_⟩
    · intro rest' sts' hi
      have hd := Items.assignment hn (hv.ends ha hs (rest ++ rest')) (hitems rest' sts' hi)
      simpa [Body.tokens] using hd
    · refine .cons (fun s hi => ⟨?_, hi⟩) hsilent
      exact hi.report_assignment_eq_nil_iff.mpr ⟨hk, rfl, hv.known, rfl⟩
  | @other _ here outer t rest ho' hc hi' ht _ ih =>
    obtain ⟨sts, hitems, hsilent⟩ := ih ho
    exact ⟨.other t :: sts, fun rest' sts' hi => .other ho' hc hi' ht (hitems rest' sts' hi),
      .cons (fun s hi => ⟨rfl, hi⟩) hsilent⟩
  | @block _ here outer opening closing body rest hop hcl _ _ ihb ih =>
    obtain ⟨stsb, hitemsb, hsilentb⟩ := ihb fun hp => (by cases hp)
    obtain ⟨sts, hitems, hsilent⟩ := ih ho
    refine ⟨.openBlock opening :: (stsb ++ .closeBlock closing :: sts), ?_,
      hsilentb.block hsilent opening closing⟩
    intro rest' sts' hi
    have hb := hitemsb _ _ (.closeBlock hcl (hitems rest' sts' hi))
    simpa using Items.openBlock hop hb
  | @stray here outer brace rest hb _ ih =>
    obtain ⟨sts, hitems, hsilent⟩ := ih ho
    refine ⟨.closeBlock brace :: sts, fun rest' sts' hi => .closeBlock hb (hitems rest' sts' hi),
      .cons (fun s hi => ⟨rfl, ?_⟩) hsilent⟩
    rw [ho rfl] at hi ⊢
    rw [hi.step_stray brace]
    exact hi

/-! ### Silent programs are derived -/

/-- **What is left of a program behind some open blocks**, given by their names, innermost first:
the rest of each block and its closing brace, and then the rest of the program. -/
inductive Rest : List (List String) → List Token → Prop
  | program {here : List String} {tokens : List Token} :
      Derives .program here [] tokens → Rest [here] tokens
  | block {here names : List String} {outer : List (List String)} {body rest : List Token}
      {closing : Token} :
      Derives .block here (names :: outer) body → closing.kind = .closeBrace →
      Rest (names :: outer) rest → Rest (here :: names :: outer) (body ++ closing :: rest)

/-- What can stand before the items of a block or program can stand before what is left of it. -/
theorem Rest.append_left {here here' : List String} {outer : List (List String)}
    {tokens : List Token} (before : List Token) (h : Rest (here' :: outer) tokens)
    (hb : ∀ nesting tokens, Derives nesting here' outer tokens →
      Derives nesting here outer (before ++ tokens)) : Rest (here :: outer) (before ++ tokens) := by
  cases h with
  | program hd => exact .program (hb _ _ hd)
  | block hd hc hr =>
    rw [← List.append_assoc]
    exact .block (hb _ _ hd) hc hr

theorem CheckState.reportAll_cons_eq_nil_iff {s : CheckState} {st : Statement}
    {sts : List Statement} :
    s.reportAll (st :: sts) = [] ↔ s.report st = [] ∧ (s.step st).reportAll sts = [] := by
  rw [CheckState.reportAll, List.append_eq_nil_iff]

theorem exists_value_of_ends {body : Body} {rest : List Token} {scopes : List (List String)}
    (hb : body.Ends rest) (hplain : ∀ t ∈ body.tokens, t.kind ≠ .endOfInput)
    (hc : body.IsComplete scopes) :
    ∃ assign value semicolon, body.tokens = assign :: (value ++ [semicolon]) ∧
      assign.isAssign = true ∧ IsValue scopes value ∧ semicolon.kind = .semicolon := by
  obtain ⟨assign, value, semicolon⟩ := body
  obtain ⟨assign, rfl⟩ := Option.isSome_iff_exists.mp hc.assign
  obtain ⟨semicolon, rfl⟩ := Option.isSome_iff_exists.mp hc.semicolon
  refine ⟨assign, value, semicolon, rfl, hb.assign _ rfl, ⟨fun t ht => ?_, hc.known⟩,
    hb.semicolon _ rfl⟩
  exact ⟨hb.value t ht, hplain t (by simp [Body.tokens, ht])⟩

/-- **Where nothing is reported and no block stays open, the rest is derived.** -/
theorem rest_of_silent {tokens : List Token} {sts : List Statement} (h : Items tokens sts)
    (hplain : ∀ t ∈ tokens, t.kind ≠ .endOfInput) {s : CheckState} {scopes : List (List String)}
    (hs : InScopes s scopes) (hr : s.reportAll sts = []) (hu : (s.run sts).openBraces = []) :
    Rest scopes tokens := by
  induction h generalizing s scopes with
  | nil =>
    have hu : s.openBraces = [] := hu
    have hlen := hs.braces
    rw [hu] at hlen
    obtain ⟨here, rfl⟩ := List.length_eq_one_iff.mp hlen.symm
    exact .program .nil
  | @openBlock brace rest sts hb _ ih =>
    obtain ⟨here, outer, rfl⟩ := hs.exists_cons
    obtain ⟨-, hr⟩ := CheckState.reportAll_cons_eq_nil_iff.mp hr
    have hrest := ih (List.forall_mem_cons.mp hplain).2 (hs.step_open brace) hr hu
    -- what is left of the new block and its closing brace are one item of the block around it
    cases hrest with
    | @block _ _ _ body rest closing hd hc hrest =>
      have happend := hrest.append_left (brace :: (body ++ [closing])) fun nesting tokens hd' => by
        simpa using Derives.block hb hc hd hd'
      simpa using happend
  | @closeBlock brace rest sts hb _ ih =>
    obtain ⟨-, hr⟩ := CheckState.reportAll_cons_eq_nil_iff.mp hr
    have hplain' := (List.forall_mem_cons.mp hplain).2
    -- without an open block the brace is stray, and else it ends the innermost one
    obtain ⟨here, _ | ⟨names, outer⟩, rfl⟩ := hs.exists_cons
    · rw [CheckState.run, List.foldl_cons] at hu
      rw [hs.step_stray brace] at hr hu
      cases ih hplain' hs hr hu with
      | program hd => exact .program (.stray hb hd)
    · exact .block .nil hb (ih hplain' (hs.step_close brace) hr hu)
  | @declaration type name body rest sts ht hn hb _ ih =>
    obtain ⟨here, outer, rfl⟩ := hs.exists_cons
    obtain ⟨hr, hrs⟩ := CheckState.reportAll_cons_eq_nil_iff.mp hr
    obtain ⟨hl, hnew, hbody⟩ := hs.report_declaration_eq_nil_iff.mp hr
    have hrest := ih (fun t hm => hplain t (by simp [hm])) (hs.step_declaration type name body)
      hrs hu
    obtain ⟨assign, value, semicolon, he, ha, hv, hsc⟩ :=
      exists_value_of_ends hb (fun t hm => hplain t (by simp [hm])) hbody
    have happend := hrest.append_left (type :: name :: assign :: (value ++ [semicolon]))
      fun nesting tokens hd => by
        simpa using Derives.declaration ht hn hl hnew ha hv hsc hd
    rw [he]
    exact happend
  | @loneType type rest sts ht hn _ ih =>
    obtain ⟨hr, -⟩ := CheckState.reportAll_cons_eq_nil_iff.mp hr
    cases hr
  | @assignment name body rest sts hn hb _ ih =>
    obtain ⟨here, outer, rfl⟩ := hs.exists_cons
    obtain ⟨hr, hrs⟩ := CheckState.reportAll_cons_eq_nil_iff.mp hr
    obtain ⟨hname, hbody⟩ := hs.report_assignment_eq_nil_iff.mp hr
    have hrest := ih (fun t hm => hplain t (by simp [hm])) hs hrs hu
    obtain ⟨assign, value, semicolon, he, ha, hv, hsc⟩ :=
      exists_value_of_ends hb (fun t hm => hplain t (by simp [hm])) hbody
    have happend := hrest.append_left (name :: assign :: (value ++ [semicolon]))
      fun nesting tokens hd => by
        simpa using Derives.assignment hn hname ha hv hsc hd
    rw [he]
    exact happend
  | @other t rest sts ho hc hi ht _ ih =>
    obtain ⟨here, outer, rfl⟩ := hs.exists_cons
    obtain ⟨-, hr⟩ := CheckState.reportAll_cons_eq_nil_iff.mp hr
    have hrest := ih (List.forall_mem_cons.mp hplain).2 hs hr hu
    exact hrest.append_left [t] fun nesting tokens hd => .other ho hc hi ht hd

/-! ### The whole check -/

/-- **The checker reports nothing exactly on derived programs.** -/
theorem findings_eq_nil_iff {tokens : List Token} (hplain : ∀ t ∈ tokens, t.kind ≠ .endOfInput)
    {eof : Token} (he : eof.kind = .endOfInput) :
    (Checker.check ⟨tokens ++ [eof]⟩ {}).findings = [] ↔ Derives .program [] [] tokens := by
  have hbefore : beforeEnd (tokens ++ [eof]) = tokens := by
    rw [beforeEnd, List.takeWhile_append_of_pos fun t ht => decide_eq_true (hplain t ht)]
    simp [he]
  have hfindings : (Checker.check ⟨tokens ++ [eof]⟩ {}).findings = [] ↔
      CheckState.reportAll ⟨{}, []⟩ (statements tokens) = [] ∧
        (CheckState.run ⟨{}, []⟩ (statements tokens)).openBraces = [] := by
    rw [Checker.check, hbefore]
    dsimp only
    rw [List.append_eq_nil_iff, CheckState.unclosed, List.map_eq_nil_iff]
  rw [hfindings]
  constructor
  · rintro ⟨hr, hu⟩
    cases rest_of_silent (items_statements tokens) hplain InScopes.nil hr hu with
    | program hd => exact hd
  · intro hd
    obtain ⟨sts, hitems, hsilent⟩ := hd.silent fun _ => rfl
    have hi := hitems [] [] .nil
    rw [List.append_nil, List.append_nil] at hi
    rw [← hi.eq_statements]
    obtain ⟨hr, here, hend⟩ := hsilent _ InScopes.nil
    exact ⟨hr, hend.openBraces_eq_nil⟩

end BlockLang
