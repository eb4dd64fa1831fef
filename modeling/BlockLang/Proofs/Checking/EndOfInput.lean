import BlockLang.Proofs.Checking.Seam
import BlockLang.Proofs.Checking.Walk
import Mathlib.Data.List.DropRight

/-! # Where a check ends

A check ends at the first end of input, or where the tokens end, whichever statement that cuts off.
What comes behind is not read, and a checker that has ended stays as it is when it is run again,
whatever was done in between to the table and to what was reported
(`checked_up_to_end_of_input`).

The walk over the tokens shows that nothing is read twice: behind the last token it sees that token
again (`Walk.peek?`), but takes it for nothing. -/

namespace BlockLang

/-! ### Running again -/

/-- Where the steps keep an invariant under which a run changes nothing, the runs between the steps
can be left out. -/
theorem foldlM_eq_foldl {σ α : Type} {step : σ → α → σ} {again : σ → Option σ} {P : σ → Prop}
    (hstep : ∀ s a, P s → P (step s a)) (hagain : ∀ s, P s → again s = some s)
    (as : List α) : ∀ s, P s →
      as.foldlM (fun s a => again (step s a)) s = some (as.foldl step s) := by
  induction as with
  | nil => exact fun _ _ => rfl
  | cons a as ih =>
    intro s hs
    rw [List.foldlM_cons, hagain _ (hstep s a hs), List.foldl_cons]
    exact ih _ (hstep s a hs)

/-- A walk after a change of its table and of what it has found. -/
def Walk.changed (w : Walk) (f : SymbolTable × List Finding → SymbolTable × List Finding) : Walk :=
  { w with
    state := { w.state with table := (f (w.state.table, w.findings)).1 }
    findings := (f (w.state.table, w.findings)).2 }

/-- A walk that is run again after each of some changes. -/
def Walk.recheckAfter? (w : Walk)
    (changes : List (SymbolTable × List Finding → SymbolTable × List Finding)) : Option Walk :=
  changes.foldlM (fun w f => (w.changed f).check?) w

/-- A session after a change of its table and of its diagnostics. -/
def Session.changed (s : Session) (f : SymbolTable × DiagnosticLog → SymbolTable × DiagnosticLog) :
    Session :=
  { s with
    table := (f (s.table, s.diagnostics)).1
    diagnostics := (f (s.table, s.diagnostics)).2 }

/-- A session whose checker is run again after each of some changes. -/
def Session.recheckAfter? (s : Session)
    (changes : List (SymbolTable × DiagnosticLog → SymbolTable × DiagnosticLog)) : Option Session :=
  changes.foldlM (fun s f => (s.changed f).recheck?) s

theorem Walk.recheckAfter?_of_atEnd {w : Walk} (hend : w.atEnd = true)
    (hopen : w.state.openBraces = [])
    (changes : List (SymbolTable × List Finding → SymbolTable × List Finding)) :
    w.recheckAfter? changes = some (changes.foldl changed w) := by
  refine foldlM_eq_foldl (P := fun w => w.atEnd = true ∧ w.state.openBraces = []) ?_ ?_
    changes w ⟨hend, hopen⟩
  · exact fun w _ h => h
  · exact fun w h => check?_of_atEnd h.1 h.2

theorem beforeEnd_append_fromEnd (tokens : List Token) : beforeEnd tokens ++ fromEnd tokens = tokens :=
  List.takeWhile_append_dropWhile

theorem drop_length_beforeEnd (tokens : List Token) :
    tokens.drop (beforeEnd tokens).length = fromEnd tokens := by
  have h : (beforeEnd tokens ++ fromEnd tokens).drop (beforeEnd tokens).length = fromEnd tokens :=
    List.drop_left
  rwa [beforeEnd_append_fromEnd] at h

theorem fromEnd_fromEnd (tokens : List Token) : fromEnd (fromEnd tokens) = fromEnd tokens :=
  List.dropWhile_idempotent ..

theorem beforeEnd_fromEnd (tokens : List Token) : beforeEnd (fromEnd tokens) = [] := by
  have h := beforeEnd_append_fromEnd (fromEnd tokens)
  rw [fromEnd_fromEnd] at h
  exact List.append_left_eq_self.mp h

theorem Checker.check_fromEnd (tokens : List Token) (t : SymbolTable) :
    Checker.check ⟨fromEnd tokens⟩ t = ⟨⟨fromEnd tokens⟩, t, [], []⟩ := by
  rw [check, beforeEnd_fromEnd, fromEnd_fromEnd, statements]
  rfl

theorem Session.recheckAfter?_of_fromEnd {s : Session} {tokens : List Token}
    (hc : s.checker = some ⟨fromEnd tokens⟩)
    (changes : List (SymbolTable × DiagnosticLog → SymbolTable × DiagnosticLog)) :
    s.recheckAfter? changes = some (changes.foldl changed s) := by
  refine foldlM_eq_foldl (P := fun s => s.checker = some ⟨fromEnd tokens⟩) ?_ ?_ changes s hc
  · exact fun s _ h => h
  · intro s h
    rw [recheck?, h, Option.map_some, runChecker, Checker.check_fromEnd, ← h,
      DiagnosticLog.reportAll, List.map_nil, List.append_nil]

/-! ### The end of input -/

variable {xs tokens : List Token} {e : Token}

theorem beforeEnd_of_mem (hxs : ∀ u ∈ xs, u.kind ≠ .endOfInput) (he : e.kind = .endOfInput)
    (ys : List Token) (htokens : tokens ∈ [xs, xs ++ [e], xs ++ [e] ++ ys]) :
    beforeEnd tokens = xs := by
  have hnil (zs : List Token) : beforeEnd (e :: zs) = [] := by
    rw [beforeEnd_cons, if_pos he]
  rcases List.mem_cons.mp htokens with rfl | htokens
  · exact beforeEnd_eq_self hxs
  rcases List.mem_cons.mp htokens with rfl | htokens
  · rw [beforeEnd_append hxs, hnil, List.append_nil]
  · obtain rfl := List.mem_singleton.mp htokens
    rw [List.append_assoc, beforeEnd_append hxs, List.singleton_append, hnil, List.append_nil]

theorem Checker.check_eq_of_beforeEnd (h : beforeEnd tokens = beforeEnd xs) (t : SymbolTable) :
    Checker.check ⟨tokens⟩ t =
      { Checker.check ⟨xs⟩ t with checker := ⟨fromEnd tokens⟩ } := by
  rw [check, check, h]

/-- **A check ends at the end of input.** Tokens without an end of input, with one behind them, and
with one and any other tokens behind it give the same findings and the same table, in a walk over
the tokens as in a session. A further run of the same checker, and any number of them, does
nothing, whatever is done to the table and to what was reported before each of them. -/
theorem checked_up_to_end_of_input (s : Session) (hxs : ∀ u ∈ xs, u.kind ≠ .endOfInput)
    (he : e.kind = .endOfInput) (ys : List Token)
    (htokens : tokens ∈ [xs, xs ++ [e], xs ++ [e] ++ ys]) :
    (∃ w, (Walk.start tokens s.table).check? = some w ∧
      w.findings = (Checker.check ⟨xs⟩ s.table).findings ∧
      w.state.table = (Checker.check ⟨xs⟩ s.table).table ∧
      ∀ changes, w.recheckAfter? changes = some (changes.foldl Walk.changed w)) ∧
    (s.checkTokens tokens).diagnostics = (s.checkTokens xs).diagnostics ∧
    (s.checkTokens tokens).table = (s.checkTokens xs).table ∧
    ∀ changes, (s.checkTokens tokens).recheckAfter? changes =
      some (changes.foldl Session.changed (s.checkTokens tokens)) := by
  have hbefore : beforeEnd tokens = beforeEnd xs :=
    (beforeEnd_of_mem hxs he ys htokens).trans (beforeEnd_eq_self hxs).symm
  have hcheck := Checker.check_eq_of_beforeEnd hbefore s.table
  refine ⟨⟨_, Walk.check?_start tokens s.table, by rw [hcheck], by rw [hcheck], ?_⟩, ?_, ?_, ?_⟩
  · refine Walk.recheckAfter?_of_atEnd ?_ rfl
    rw [Walk.atEnd_iff, Walk.ahead, drop_length_beforeEnd, beforeEnd_fromEnd]
  · rw [Session.checkTokens, Session.runChecker, hcheck]
    rfl
  · rw [Session.checkTokens, Session.runChecker, hcheck]
    rfl
  · exact Session.recheckAfter?_of_fromEnd rfl

/-- A block in which a declaration stops behind its name. -/
def cutOff : List Token :=
  [⟨.openBrace, "\x7b", 3⟩, ⟨.keyword, "int", 3⟩, ⟨.identifier, "b", 4⟩]

/-- The rest of the declaration and of the block. -/
def continuation : List Token :=
  [⟨.operator, "=", 5⟩, ⟨.identifier, "c", 5⟩, ⟨.semicolon, ";", 5⟩, ⟨.closeBrace, "\x7d", 6⟩]

/-- Behind an end of input, the rest of a declaration is not read: the sign, the semicolon and the
closing brace are missing, as they are without the rest. -/
theorem checked_up_to_end_of_input_of_cutOff :
    (∀ u ∈ cutOff, u.kind ≠ .endOfInput) ∧
      (∃ w, (Walk.start (cutOff ++ [⟨.endOfInput, "$", 0⟩] ++ continuation) {}).check? = some w ∧
        w.findings = [⟨3, .missingAssign .declaration "b"⟩,
          ⟨3, .missingSemicolon .declaration "b"⟩, ⟨3, .unclosedBlock⟩]) ∧
      (∃ w, (Walk.start cutOff {}).check? = some w ∧
        w.recheckAfter? [fun _ => ({}, []), id] = some ((w.changed fun _ => ({}, [])).changed id)) := by
  have hend : ∀ u ∈ cutOff, u.kind ≠ .endOfInput := by decide
  obtain ⟨⟨w, hw, hfindings, -⟩, -⟩ := checked_up_to_end_of_input {} hend
    (e := ⟨.endOfInput, "$", 0⟩) rfl continuation (.tail _ (.tail _ (.head _)))
  obtain ⟨⟨w', hw', -, -, hagain⟩, -⟩ := checked_up_to_end_of_input {} hend
    (e := ⟨.endOfInput, "$", 0⟩) rfl continuation (.head _)
  exact ⟨hend, ⟨w, hw, hfindings.trans (by decide +kernel)⟩, ⟨w', hw', hagain _⟩⟩

end BlockLang
