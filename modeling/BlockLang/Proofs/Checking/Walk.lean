import BlockLang.Checker
import Mathlib.Data.List.Basic

/-! # A walk over a token list

The same check as `Checker.check`, by positions: a walk looks at the token where it is, does what
the token asks for, and goes on. Behind the last token it still sees that one, so that it can take
what it has passed for what comes next.

* `Walk`: a position in a token list, the state of the check, and what was found and told so far.
* `Walk.peek?`, `Walk.atEnd`, `Walk.moved`: the moves. Looking at a token of an empty list fails.
* `Walk.statement?`: the statement at the position; `Walk.run?` takes all of them, and `Walk.check?`
  reports the blocks that are open at the end besides.
* `Walk.ahead`: the tokens before the end that have not been passed. The moves are told by them
  (`Walk.atEnd_iff`, `Walk.of_ahead`), and so is the look behind a name
  (`Walk.exists_peek?_moved`).
* `Walk.Passes`: a walk has passed some tokens with some effects.

Every statement passes the tokens of the statement that is cut there, with its effects
(`Walk.exists_statement?`), and a run passes all of them (`Walk.exists_run?`). So a walk never
fails, and it does what the check does (`Walk.check?_start`). -/

namespace BlockLang

theorem beforeEnd_cons (t : Token) (rest : List Token) : beforeEnd (t :: rest) =
    if t.kind = .endOfInput then [] else t :: beforeEnd rest := by
  rw [beforeEnd, List.takeWhile_cons]
  by_cases h : t.kind = .endOfInput <;> simp [h, beforeEnd]

/-- A walk over a token list: where it is, the state of the check, what was found and what was
told. -/
structure Walk where
  tokens : List Token
  position : Nat := 0
  state : CheckState
  findings : List Finding := []
  events : List Event := []
  deriving DecidableEq, Repr

namespace Walk

/-- The walk at the first token, with a symbol table. -/
def start (tokens : List Token) (t : SymbolTable) : Walk where
  tokens := tokens
  state := ⟨t, []⟩

/-! ### Moves -/

/-- The token at the position. Behind the last token this is the last one, if there is one. -/
def peek? (w : Walk) : Option Token :=
  if w.position < w.tokens.length then w.tokens[w.position]? else w.tokens.getLast?

/-- Whether there is nothing to be walked any more: the position is behind the last token, or at an
end of input. -/
def atEnd (w : Walk) : Bool :=
  w.tokens.length ≤ w.position || w.peek?.any (·.kind = .endOfInput)

/-- Whether the token at the position has a kind, and is not at the end. -/
def sees (w : Walk) (k : TokenKind) : Bool := !w.atEnd && w.peek?.any (·.kind = k)

/-- The walk one token further. At the end it stays. -/
def moved (w : Walk) : Walk := if w.atEnd then w else { w with position := w.position + 1 }

/-- Reports a problem. -/
def reporting (w : Walk) (line : Int) (p : Problem) : Walk :=
  { w with findings := w.findings ++ [⟨line, p⟩] }

/-! ### Statements -/

/-- Looks at a token of a value: a name in it must be visible. -/
def noting (w : Walk) (form : ValueForm) (t : Token) : Walk :=
  if t.kind = .identifier ∧ !w.state.table.isVisible t.lexeme then
    w.reporting t.line (.undeclared form t.lexeme)
  else w

/-- Takes the sign `=`, or reports that it is missing. The token at the position is looked at also
where the walk is at its end. -/
def takeAssign? (w : Walk) (form : ValueForm) (line : Int) (name : String) : Option Walk := do
  let t ← w.peek?
  return if t.isAssign then w.moved else w.reporting line (.missingAssign form name)

/-- Takes the semicolon, or reports that it is missing. -/
def takeSemicolon (w : Walk) (form : ValueForm) (line : Int) (name : String) : Walk :=
  if w.sees .semicolon then w.moved else w.reporting line (.missingSemicolon form name)

@[simp] theorem noting_tokens (w : Walk) (form : ValueForm) (t : Token) :
    (w.noting form t).tokens = w.tokens := by
  unfold noting
  split <;> rfl

@[simp] theorem noting_position (w : Walk) (form : ValueForm) (t : Token) :
    (w.noting form t).position = w.position := by
  unfold noting
  split <;> rfl

theorem length_moved_lt {w : Walk} (h : w.atEnd = false) (form : ValueForm) (t : Token) :
    (w.moved.noting form t).tokens.length - (w.moved.noting form t).position <
      w.tokens.length - w.position := by
  have hlt : w.position < w.tokens.length := by
    rw [atEnd, Bool.or_eq_false_iff, decide_eq_false_iff_not] at h
    exact Nat.lt_of_not_le h.1
  have hmoved : w.moved = { w with position := w.position + 1 } := by
    rw [moved, h]
    rfl
  rw [noting_tokens, noting_position, hmoved]
  exact Nat.sub_succ_lt_self _ _ hlt

/-- Takes the tokens of a value, up to a semicolon or to the end. -/
def takeValue? (w : Walk) (form : ValueForm) : Option Walk :=
  if w.atEnd || w.sees .semicolon then some w
  else
    match w.peek? with
    | none => none
    | some t => takeValue? (w.moved.noting form t) form
termination_by w.tokens.length - w.position
decreasing_by exact length_moved_lt (by simp_all) form _

/-- Takes what follows the name in a declaration or assignment, whose first token is on `line`. -/
def takeBody? (w : Walk) (form : ValueForm) (line : Int) (name : String) : Option Walk := do
  let w ← w.takeAssign? form line name
  let w ← w.takeValue? form
  return w.takeSemicolon form line name

/-- Enters a declared name, unless the innermost frame has it. -/
def declaring (w : Walk) (type name : Token) : Walk :=
  let w := if name.lexeme.length = 1 then w
    else w.reporting name.line (.invalidName name.lexeme)
  if w.state.table.existsHere name.lexeme then
    w.reporting name.line (.redeclared name.lexeme)
  else
    let entry := label type.lexeme w.state.table.visibility
    { w with
      state := { w.state with table := w.state.table.insert name.lexeme entry }
      events := w.events ++ [.declared name.lexeme entry] }

/-- A declaration, or a type keyword alone. -/
def declaration? (w : Walk) : Option Walk := do
  let type ← w.peek?
  if w.moved.sees .identifier then
    let name ← w.moved.peek?
    (w.moved.moved.declaring type name).takeBody? .declaration type.line name.lexeme
  else
    return w.moved.reporting type.line (.expectedName type.lexeme)

/-- An assignment. -/
def assignment? (w : Walk) : Option Walk := do
  let name ← w.peek?
  let w := if w.state.table.isVisible name.lexeme then w.moved
    else w.moved.reporting name.line (.undeclared .assignment name.lexeme)
  w.takeBody? .assignment name.line name.lexeme

/-- Opens a block. -/
def openBlock (w : Walk) (brace : Token) : Walk :=
  { w.moved with
    state := ⟨w.state.table.enter, brace :: w.state.openBraces⟩
    events := w.events ++ w.state.table.events .enter }

/-- Closes the innermost block that the walk has open, if there is one. -/
def closeBlock (w : Walk) : Walk :=
  match w.state.openBraces with
  | [] => w.moved
  | _ :: braces =>
    { w.moved with
      state := ⟨w.state.table.exit, braces⟩
      events := w.events ++ w.state.table.events .exit }

/-- The statement at the position. -/
def statement? (w : Walk) : Option Walk := do
  let t ← w.peek?
  if t.kind = .openBrace then return w.openBlock t
  else if t.kind = .closeBrace then return w.closeBlock
  else if t.isTypeKeyword then w.declaration?
  else if t.kind = .identifier then w.assignment?
  else return w.moved

/-! ### What is ahead -/

/-- The tokens before the end that the walk has not passed. -/
def ahead (w : Walk) : List Token := beforeEnd (w.tokens.drop w.position)

variable {w w' w'' : Walk} {t : Token} {rest ts ts' : List Token} {s s' : CheckState}
  {fs fs' : List Finding} {es es' : List Event}

theorem peek?_of_lt (h : w.position < w.tokens.length) : w.peek? = some w.tokens[w.position] := by
  rw [peek?, if_pos h, List.getElem?_eq_getElem h]

theorem ahead_of_lt (h : w.position < w.tokens.length) : w.ahead =
    if w.tokens[w.position].kind = .endOfInput then []
    else w.tokens[w.position] :: beforeEnd (w.tokens.drop (w.position + 1)) := by
  rw [ahead, List.drop_eq_getElem_cons h, beforeEnd_cons]

theorem ahead_of_le (h : w.tokens.length ≤ w.position) : w.ahead = [] := by
  rw [ahead, List.drop_eq_nil_of_le h]
  rfl

/-- **The end is where nothing is ahead.** -/
theorem atEnd_iff : w.atEnd = true ↔ w.ahead = [] := by
  rcases Nat.lt_or_ge w.position w.tokens.length with h | h
  · rw [atEnd, ahead_of_lt h, peek?_of_lt h]
    simp [Nat.not_le.mpr h]
  · simp [atEnd, h, ahead_of_le h]

/-- **Away from the end**, the walk sees the next token, and the move is to the token behind it. -/
theorem of_ahead (h : w.ahead = t :: rest) : w.position < w.tokens.length ∧ w.peek? = some t ∧
    w.moved = { w with position := w.position + 1 } ∧ w.moved.ahead = rest := by
  have hend : w.atEnd = false := by
    rw [Bool.eq_false_iff, ne_eq, atEnd_iff, h]
    exact List.cons_ne_nil _ _
  have hmoved : w.moved = { w with position := w.position + 1 } := by
    rw [moved, hend]
    rfl
  have hlt : w.position < w.tokens.length := by
    by_contra hge
    rw [ahead_of_le (Nat.le_of_not_lt hge)] at h
    cases h
  rw [ahead_of_lt hlt] at h
  split at h
  · cases h
  · obtain ⟨rfl, rfl⟩ := List.cons.inj h
    exact ⟨hlt, peek?_of_lt hlt, hmoved, by rw [hmoved]; rfl⟩

theorem exists_ahead (h : ¬w.atEnd = true) : ∃ t rest, w.ahead = t :: rest :=
  List.exists_cons_of_ne_nil fun hnil => h (atEnd_iff.mpr hnil)

theorem sees_eq (w : Walk) (k : TokenKind) : w.sees k = w.ahead.head?.any (·.kind = k) := by
  rcases h : w.ahead with _ | ⟨t, rest⟩
  · rw [sees, atEnd_iff.mpr h]
    rfl
  · have hend : w.atEnd = false := by
      rw [Bool.eq_false_iff, ne_eq, atEnd_iff, h]
      exact List.cons_ne_nil _ _
    rw [sees, hend, (of_ahead h).2.1]
    rfl

/-- **Behind a token that is no `=`**, the walk sees a token that is one iff the next token is. At
the end of the list it still sees the token that it has passed. -/
theorem exists_peek?_moved (h : w.ahead = t :: rest) (ht : t.isAssign = false) :
    ∃ u, w.moved.peek? = some u ∧ u.isAssign = rest.head?.any Token.isAssign := by
  obtain ⟨hlt, hpeek, hmoved, hrest⟩ := of_ahead h
  rcases Nat.lt_or_ge w.moved.position w.moved.tokens.length with hnext | hlast
  · refine ⟨_, peek?_of_lt hnext, ?_⟩
    rw [ahead_of_lt hnext] at hrest
    rw [← hrest]
    split
    · next hkind => simp [Token.isAssign, hkind]
    · rfl
  · refine ⟨t, ?_, ?_⟩
    · have hpos : w.tokens.length - 1 = w.position := by
        rw [hmoved] at hlast
        have : w.tokens.length ≤ w.position + 1 := hlast
        omega
      have hget : w.tokens[w.position]? = some t := by
        rw [peek?, if_pos hlt] at hpeek
        exact hpeek
      rw [peek?, if_neg (Nat.not_lt.mpr hlast), hmoved, List.getLast?_eq_getElem?]
      dsimp only
      rw [hpos, hget]
    · rw [ahead_of_le hlast] at hrest
      rw [ht, ← hrest]
      rfl

/-! ### Tokens that are passed -/

/-- **A walk has passed some tokens**, and by that came to a state, with some findings and events. -/
structure Passes (w : Walk) (ts : List Token) (s : CheckState) (fs : List Finding)
    (es : List Event) (w' : Walk) : Prop where
  ahead : w.ahead = ts ++ w'.ahead
  tokens : w'.tokens = w.tokens
  position : w'.position = w.position + ts.length
  state : w'.state = s
  findings : w'.findings = w.findings ++ fs
  events : w'.events = w.events ++ es

namespace Passes

theorem refl (w : Walk) : Passes w [] w.state [] [] w :=
  ⟨rfl, rfl, rfl, rfl, (List.append_nil _).symm, (List.append_nil _).symm⟩

theorem trans (h : Passes w ts s fs es w') (h' : Passes w' ts' s' fs' es' w'') :
    Passes w (ts ++ ts') s' (fs ++ fs') (es ++ es') w'' where
  ahead := by rw [h.ahead, h'.ahead, List.append_assoc]
  tokens := h'.tokens.trans h.tokens
  position := by rw [h'.position, h.position, List.length_append, Nat.add_assoc]
  state := h'.state
  findings := by rw [h'.findings, h.findings, List.append_assoc]
  events := by rw [h'.events, h.events, List.append_assoc]

theorem moved (h : w.ahead = t :: rest) : Passes w [t] w.state [] [] w.moved := by
  obtain ⟨-, -, hmoved, hrest⟩ := of_ahead h
  refine ⟨by rw [hrest, h]; rfl, ?_, ?_, ?_, ?_, ?_⟩ <;> rw [hmoved] <;> simp

theorem reporting (h : Passes w ts s fs es w') (line : Int) (p : Problem) :
    Passes w ts s (fs ++ [⟨line, p⟩]) es (w'.reporting line p) :=
  ⟨h.ahead, h.tokens, h.position, h.state, by
    rw [← List.append_assoc, ← h.findings]; rfl, h.events⟩

theorem reportingUnless (h : Passes w ts s fs es w') (c : Prop) [Decidable c] (line : Int)
    (p : Problem) : Passes w ts s (fs ++ if c then [] else [⟨line, p⟩]) es
      (if c then w' else w'.reporting line p) := by
  split
  · rw [List.append_nil]
    exact h
  · exact h.reporting line p

theorem ahead_eq (h : Passes w ts s fs es w') (hw : w.ahead = ts ++ rest) :
    w'.ahead = rest :=
  List.append_cancel_left (h.ahead.symm.trans hw)

theorem peek?_eq (h : Passes w [] s fs es w') : w'.peek? = w.peek? := by
  rw [peek?, peek?, h.tokens, h.position, List.length_nil, Nat.add_zero]

end Passes

/-! ### Bodies -/

/-- The findings on some tokens of a value: the names that are not visible. -/
def undeclaredIn (t : SymbolTable) (form : ValueForm) (ts : List Token) : List Finding :=
  ((ts.filter (·.kind = .identifier)).filter fun u => !t.isVisible u.lexeme).map fun u =>
    ⟨u.line, .undeclared form u.lexeme⟩

theorem undeclaredIn_cons (t : SymbolTable) (form : ValueForm) (u : Token) (ts : List Token) :
    undeclaredIn t form (u :: ts) = undeclaredIn t form [u] ++ undeclaredIn t form ts := by
  rw [undeclaredIn, undeclaredIn, undeclaredIn, ← List.map_append, ← List.filter_append,
    ← List.filter_append]
  rfl

theorem noting_eq (w : Walk) (form : ValueForm) (u : Token) : w.noting form u =
    { w with findings := w.findings ++ undeclaredIn w.state.table form [u] } := by
  unfold noting
  by_cases hk : u.kind = .identifier <;> cases hv : w.state.table.isVisible u.lexeme <;>
    simp [undeclaredIn, reporting, hk, hv]

theorem Passes.noting (h : Passes w ts s fs es w') (form : ValueForm) (u : Token) :
    Passes w ts s (fs ++ undeclaredIn s.table form [u]) es (w'.noting form u) := by
  rw [noting_eq, h.state]
  exact ⟨h.ahead, h.tokens, h.position, rfl, by rw [h.findings, List.append_assoc], h.events⟩

/-- The sign `=` is passed if it is next. The token that the walk sees tells whether it is. -/
theorem exists_takeAssign? {u : Token} (hpeek : w.peek? = some u)
    (hu : u.isAssign = w.ahead.head?.any Token.isAssign) (form : ValueForm) (line : Int)
    (name : String) : ∃ w', w.takeAssign? form line name = some w' ∧
      Passes w (Body.cutAssign w.ahead).1.toList w.state
        (if (Body.cutAssign w.ahead).1.isSome then [] else [⟨line, .missingAssign form name⟩]) []
        w' := by
  rw [takeAssign?, hpeek]
  refine ⟨_, rfl, ?_⟩
  rcases h : w.ahead with _ | ⟨t, rest⟩
  · rw [h] at hu
    rw [hu]
    exact (Passes.refl w).reporting _ _
  · obtain rfl : u = t := Option.some.inj (hpeek.symm.trans (of_ahead h).2.1)
    rw [Body.cutAssign]
    cases ha : u.isAssign with
    | true => exact Passes.moved h
    | false => exact (Passes.refl w).reporting _ _

theorem takeWhile_ahead_eq_nil (h : (w.atEnd || w.sees .semicolon) = true) :
    w.ahead.takeWhile (·.kind ≠ .semicolon) = [] := by
  rw [Bool.or_eq_true, atEnd_iff, sees_eq] at h
  rcases hw : w.ahead with _ | ⟨t, rest⟩
  · rfl
  · rw [hw] at h
    have hkind : t.kind = .semicolon := by simpa using h
    rw [List.takeWhile_cons_of_neg (by simp [hkind])]

theorem exists_ahead_of_value (h : ¬(w.atEnd || w.sees .semicolon) = true) :
    ∃ t rest, w.ahead = t :: rest ∧ t.kind ≠ .semicolon := by
  rw [Bool.or_eq_true, atEnd_iff, sees_eq, not_or] at h
  rcases hw : w.ahead with _ | ⟨t, rest⟩
  · exact absurd hw h.1
  · rw [hw] at h
    exact ⟨t, rest, rfl, by simpa using h.2⟩

theorem exists_takeValue? (w : Walk) (form : ValueForm) : ∃ w', w.takeValue? form = some w' ∧
    Passes w (w.ahead.takeWhile (·.kind ≠ .semicolon)) w.state
      (undeclaredIn w.state.table form (w.ahead.takeWhile (·.kind ≠ .semicolon))) [] w' := by
  fun_induction takeValue? w form with
  | case1 w hend =>
    rw [takeWhile_ahead_eq_nil hend]
    exact ⟨w, rfl, Passes.refl w⟩
  | case2 w hgo hpeek =>
    obtain ⟨t, rest, hahead, -⟩ := exists_ahead_of_value hgo
    rw [(of_ahead hahead).2.1] at hpeek
    cases hpeek
  | case3 w hgo u hpeek ih =>
    obtain ⟨t, rest, hahead, hkind⟩ := exists_ahead_of_value hgo
    obtain rfl : t = u := Option.some.inj ((of_ahead hahead).2.1.symm.trans hpeek)
    have hstep := (Passes.moved hahead).noting form t
    obtain ⟨w', hw', hrest⟩ := ih
    have hnext : (w.moved.noting form t).ahead = rest := by
      rw [noting_eq]
      exact (of_ahead hahead).2.2.2
    rw [hstep.state, hnext] at hrest
    rw [hahead, List.takeWhile_cons_of_pos (by simp [hkind]), undeclaredIn_cons]
    exact ⟨w', hw', hstep.trans hrest⟩

/-- The semicolon is passed if it is next, as it is unless nothing is ahead. -/
theorem passes_takeSemicolon (h : ∀ u ∈ w.ahead.head?, u.kind = .semicolon) (form : ValueForm)
    (line : Int) (name : String) :
    Passes w w.ahead.head?.toList w.state
      (if w.ahead.head?.isSome then [] else [⟨line, .missingSemicolon form name⟩]) []
      (w.takeSemicolon form line name) := by
  rw [takeSemicolon, sees_eq]
  rcases hw : w.ahead with _ | ⟨t, rest⟩
  · exact (Passes.refl w).reporting _ _
  · have hkind : t.kind = .semicolon := h t (by rw [hw]; rfl)
    rw [List.head?_cons, Option.any_some, hkind]
    exact Passes.moved hw

theorem exists_takeBody? {u : Token} (hpeek : w.peek? = some u)
    (hu : u.isAssign = w.ahead.head?.any Token.isAssign) (form : ValueForm) (line : Int)
    (name : String) : ∃ w', w.takeBody? form line name = some w' ∧
      Passes w (Body.cut w.ahead).1.tokens w.state
        (CheckState.reportBody w.state.table form line name (Body.cut w.ahead).1) [] w' := by
  obtain ⟨w₁, hw₁, hassign⟩ := exists_takeAssign? hpeek hu form line name
  obtain ⟨w₂, hw₂, hvalue⟩ := w₁.exists_takeValue? form
  have hrest₁ : w₁.ahead = (Body.cutAssign w.ahead).2 :=
    hassign.ahead_eq (Body.toList_append_cutAssign w.ahead).symm
  have hrest₂ : w₂.ahead = w₁.ahead.dropWhile (·.kind ≠ .semicolon) :=
    hvalue.ahead_eq List.takeWhile_append_dropWhile.symm
  have hhead : ∀ u ∈ w₂.ahead.head?, u.kind = .semicolon := by
    intro u hu
    have hnot := List.head?_dropWhile_not (fun t : Token => t.kind ≠ .semicolon) w₁.ahead
    rw [← hrest₂, Option.mem_def.mp hu] at hnot
    simpa using hnot
  have hall := (hassign.trans hvalue).trans (passes_takeSemicolon hhead form line name)
  rw [hvalue.state, hassign.state, hrest₂, hrest₁] at hall
  rw [Body.cut_eq]
  exact ⟨_, by simp [takeBody?, hw₁, hw₂], hall⟩

/-! ### Statements -/

theorem passes_declaring (w : Walk) (type name : Token) :
    Passes w [] { w.state with table := w.state.table.declare type.lexeme name.lexeme }
      ((if name.lexeme.length = 1 then [] else [⟨name.line, .invalidName name.lexeme⟩]) ++
        (if w.state.table.existsHere name.lexeme then [⟨name.line, .redeclared name.lexeme⟩]
          else []))
      (if w.state.table.existsHere name.lexeme then []
        else [.declared name.lexeme (label type.lexeme w.state.table.visibility)])
      (w.declaring type name) := by
  have hpass := (Passes.refl w).reportingUnless (name.lexeme.length = 1) name.line
    (.invalidName name.lexeme)
  rw [List.nil_append] at hpass
  rw [declaring]
  generalize (if name.lexeme.length = 1 then w
    else w.reporting name.line (.invalidName name.lexeme)) = w₁ at hpass ⊢
  rw [hpass.state, SymbolTable.declare]
  dsimp only
  split
  · exact hpass.reporting _ _
  · refine ⟨hpass.ahead, hpass.tokens, hpass.position, rfl, ?_, by rw [hpass.events]; simp⟩
    rw [hpass.findings, List.append_nil]

theorem passes_openBlock (h : w.ahead = t :: rest) :
    Passes w [t] (w.state.step (.openBlock t)) [] (w.state.trace (.openBlock t))
      (w.openBlock t) := by
  have hmoved := Passes.moved h
  exact ⟨hmoved.ahead, hmoved.tokens, hmoved.position, rfl, hmoved.findings, rfl⟩

theorem passes_closeBlock (h : w.ahead = t :: rest) :
    Passes w [t] (w.state.step (.closeBlock t)) [] (w.state.trace (.closeBlock t))
      w.closeBlock := by
  have hmoved := Passes.moved h
  rw [closeBlock, CheckState.step, CheckState.trace]
  cases hbraces : w.state.openBraces with
  | nil => exact hmoved
  | cons brace braces =>
    exact ⟨hmoved.ahead, hmoved.tokens, hmoved.position, rfl, hmoved.findings, rfl⟩

theorem isAssign_of_identifier (h : t.kind = .identifier) : t.isAssign = false := by
  rw [Token.isAssign, h]
  rfl

theorem exists_assignment? (h : w.ahead = t :: rest) (hkind : t.kind = .identifier) :
    ∃ w', w.assignment? = some w' ∧
      Passes w (t :: (Body.cut rest).1.tokens) w.state
        (w.state.report (.assignment t (Body.cut rest).1)) [] w' := by
  -- `u` is what the walk sees behind the name; at the end of the list it is the name again
  obtain ⟨u, hu, hassign⟩ := exists_peek?_moved h (isAssign_of_identifier hkind)
  have hpass := (Passes.refl w.moved).reportingUnless (w.state.table.isVisible t.lexeme) t.line
    (.undeclared .assignment t.lexeme)
  rw [assignment?, (of_ahead h).2.1, Option.bind_eq_bind, Option.bind_some]
  generalize (if w.state.table.isVisible t.lexeme then w.moved
    else w.moved.reporting t.line (.undeclared .assignment t.lexeme)) = w₁ at hpass ⊢
  have hrest : w₁.ahead = rest := hpass.ahead.symm.trans (of_ahead h).2.2.2
  obtain ⟨w', hw', hbody⟩ := exists_takeBody? (hpass.peek?_eq.trans hu) (by rw [hassign, hrest])
    .assignment t.line t.lexeme
  rw [hrest, hpass.state, (Passes.moved h).state] at hbody
  exact ⟨w', hw', ((Passes.moved h).trans hpass).trans hbody⟩

theorem exists_declaration? (h : w.ahead = t :: rest) : ∃ w', w.declaration? = some w' ∧
    Passes w (Statement.cutDeclaration t rest).1.tokens
      (w.state.step (Statement.cutDeclaration t rest).1)
      (w.state.report (Statement.cutDeclaration t rest).1)
      (w.state.trace (Statement.cutDeclaration t rest).1) w' := by
  have hmoved := Passes.moved h
  have hrest := (of_ahead h).2.2.2
  rw [declaration?, (of_ahead h).2.1, sees_eq, hrest]
  rcases rest with _ | ⟨name, rest⟩
  · exact ⟨_, rfl, hmoved.reporting _ _⟩
  rw [Statement.cutDeclaration]
  by_cases hname : name.kind = .identifier
  · obtain ⟨u, hu, hassign⟩ := exists_peek?_moved hrest (isAssign_of_identifier hname)
    have hpass := passes_declaring w.moved.moved t name
    rw [(Passes.moved hrest).state, hmoved.state] at hpass
    have hrest' : (w.moved.moved.declaring t name).ahead = rest :=
      hpass.ahead.symm.trans (of_ahead hrest).2.2.2
    obtain ⟨w', hw', hbody⟩ := exists_takeBody? (hpass.peek?_eq.trans hu) (by rw [hassign, hrest'])
      .declaration t.line name.lexeme
    rw [hrest', hpass.state] at hbody
    refine ⟨w', by simp [hname, (of_ahead hrest).2.1, hw'], ?_⟩
    have hall := (hmoved.trans (Passes.moved hrest)).trans (hpass.trans hbody)
    rw [if_pos hname]
    simpa [Statement.tokens, CheckState.step, CheckState.report, CheckState.trace] using hall
  · refine ⟨w.moved.reporting t.line (.expectedName t.lexeme), by simp [hname], ?_⟩
    rw [if_neg hname]
    exact hmoved.reporting _ _

/-- **A statement is passed**, with its effects. -/
theorem exists_statement? (h : w.ahead = t :: rest) : ∃ w', w.statement? = some w' ∧
    Passes w (Statement.cut t rest).1.tokens (w.state.step (Statement.cut t rest).1)
      (w.state.report (Statement.cut t rest).1) (w.state.trace (Statement.cut t rest).1) w' := by
  have hstatement : w.statement? = if t.kind = .openBrace then some (w.openBlock t)
      else if t.kind = .closeBrace then some w.closeBlock
      else if t.isTypeKeyword then w.declaration?
      else if t.kind = .identifier then w.assignment?
      else some w.moved := by
    rw [statement?, (of_ahead h).2.1]
    rfl
  rw [hstatement, Statement.cut]
  split_ifs with hopen hclose htype hname
  · exact ⟨_, rfl, passes_openBlock h⟩
  · exact ⟨_, rfl, passes_closeBlock h⟩
  · exact exists_declaration? h
  · exact exists_assignment? h hname
  · exact ⟨_, rfl, Passes.moved h⟩

theorem length_ahead_lt (hgo : ¬w.atEnd = true) (h : w.statement? = some w') :
    w'.ahead.length < w.ahead.length := by
  obtain ⟨t, rest, hahead⟩ := exists_ahead hgo
  obtain ⟨w₁, hw₁, hpass⟩ := exists_statement? hahead
  obtain rfl : w₁ = w' := Option.some.inj (hw₁.symm.trans h)
  have hpos := List.length_pos_iff.mpr (Statement.tokens_ne_nil (Statement.cut t rest).1)
  rw [hpass.ahead, List.length_append]
  omega

/-! ### Whole walks -/

/-- Takes all statements up to the end. -/
def run? (w : Walk) : Option Walk :=
  if hend : w.atEnd then some w
  else
    match h : w.statement? with
    | none => none
    | some w' =>
      have := length_ahead_lt hend h
      run? w'
termination_by w.ahead.length

/-- Reports the blocks that are open, innermost first, and has no block open any more. -/
def close (w : Walk) : Walk :=
  { w with
    state := { w.state with openBraces := [] }
    findings := w.findings ++ w.state.unclosed }

/-- Checks what is ahead. -/
def check? (w : Walk) : Option Walk := w.run?.map close

/-- **A walk passes all statements ahead**, with their effects. -/
theorem exists_run? (w : Walk) : ∃ w', w.run? = some w' ∧
    Passes w w.ahead (w.state.run (statements w.ahead)) (w.state.reportAll (statements w.ahead))
      (w.state.traceAll (statements w.ahead)) w' := by
  fun_induction run? w with
  | case1 w hend =>
    rw [atEnd_iff.mp hend, statements]
    exact ⟨w, rfl, Passes.refl w⟩
  | case2 w hgo hnone =>
    obtain ⟨t, rest, hahead⟩ := exists_ahead hgo
    obtain ⟨w₁, hw₁, -⟩ := exists_statement? hahead
    rw [hw₁] at hnone
    cases hnone
  | case3 w hgo w₁ hw₁ _ ih =>
    obtain ⟨t, rest, hahead⟩ := exists_ahead hgo
    obtain ⟨w₂, hw₂, hpass⟩ := exists_statement? hahead
    obtain rfl : w₂ = w₁ := Option.some.inj (hw₂.symm.trans hw₁)
    obtain ⟨w', hw', hrest⟩ := ih
    have hnext : w₂.ahead = (Statement.cut t rest).2 :=
      hpass.ahead_eq (hahead.trans (Statement.tokens_cut t rest).symm)
    rw [hpass.state, hnext] at hrest
    have hall := hpass.trans hrest
    rw [Statement.tokens_cut] at hall
    rw [hahead, statements]
    exact ⟨w', hw', hall⟩

theorem check?_of_atEnd (hend : w.atEnd = true) (hopen : w.state.openBraces = []) :
    w.check? = some w := by
  rw [check?, run?, dif_pos hend, Option.map_some, close, CheckState.unclosed, hopen, List.map_nil,
    List.append_nil, ← hopen]

/-- **The walk over a token list is its check.** It ends behind the tokens before the end of
input, with no block open. -/
theorem check?_start (tokens : List Token) (t : SymbolTable) : (start tokens t).check? =
    some
      { tokens := tokens
        position := (beforeEnd tokens).length
        state := ⟨(Checker.check ⟨tokens⟩ t).table, []⟩
        findings := (Checker.check ⟨tokens⟩ t).findings
        events := (Checker.check ⟨tokens⟩ t).events } := by
  obtain ⟨w, hw, hpass⟩ := (start tokens t).exists_run?
  have hahead : (start tokens t).ahead = beforeEnd tokens := rfl
  rw [hahead] at hpass
  rw [check?, hw, Option.map_some, close, hpass.tokens, hpass.position, hpass.state,
    hpass.findings, hpass.events]
  simp [start, Checker.check]

end Walk

end BlockLang
