import BlockLang.Session
import BlockLang.Proofs.Checking.Frames

/-! # Checking token lists one after the other

A semicolon ends whatever statement it is in. So a token list that ends in one has the same
statements wherever it stands, and what comes after it starts a statement of its own
(`Items.append`). The second of two checks knows nothing of the first one but the table, so the two
are as one check if no block of the first list is left open (`Checker.check_append`). -/

namespace BlockLang

/-- The last token, if there is one, is a semicolon. -/
def EndsInSemicolon (tokens : List Token) : Prop := ∀ t ∈ tokens.getLast?, t.kind = .semicolon

variable {xs ys : List Token} {t : SymbolTable}

theorem EndsInSemicolon.of_append (xs : List Token) (h : EndsInSemicolon (xs ++ ys)) :
    EndsInSemicolon ys := by
  intro u hu
  refine h u ?_
  rw [List.getLast?_append, hu]
  rfl

theorem EndsInSemicolon.eq_nil (h : EndsInSemicolon xs) (hxs : ∀ u ∈ xs, u.kind ≠ .semicolon) :
    xs = [] := by
  rcases hlast : xs.getLast? with _ | u
  · exact List.getLast?_eq_none_iff.mp hlast
  · exact absurd (h u hlast) (hxs u (List.mem_of_getLast? hlast))

/-! ### Statements -/

theorem Body.Ends.of_semicolon {b : Body} {rest : List Token} (h : b.Ends rest)
    (hs : b.semicolon ≠ none) (more : List Token) : b.Ends more :=
  ⟨h.assign, h.no_assign, h.value, h.semicolon, fun hn => absurd hn hs⟩

theorem Body.Ends.semicolon_ne_none {b : Body} {name : Token} {rest : List Token} (h : b.Ends rest)
    (hname : name.kind = .identifier) (hlast : EndsInSemicolon (name :: (b.tokens ++ rest))) :
    b.semicolon ≠ none := by
  intro hs
  have htokens : b.tokens ++ rest = b.assign.toList ++ b.value := by
    rw [h.no_semicolon hs, Body.tokens, hs, Option.toList_none, List.append_nil, List.append_nil]
  have hother : ∀ u ∈ name :: (b.tokens ++ rest), u.kind ≠ .semicolon := by
    rw [htokens]
    intro u hu
    rcases List.mem_cons.mp hu with rfl | hu
    · rw [hname]; decide
    rcases List.mem_append.mp hu with hu | hu
    · have ha := h.assign u (Option.mem_toList.mp hu)
      intro hk
      rw [Body.isAssign_of_semicolon hk] at ha
      cases ha
    · exact h.value u hu
  exact absurd (hlast.eq_nil hother) (List.cons_ne_nil _ _)

/-- **Behind a semicolon the statements start anew.** -/
theorem Items.append {sts sts' : List Statement} (h : Items xs sts) (h' : Items ys sts')
    (hxs : EndsInSemicolon xs) : Items (xs ++ ys) (sts ++ sts') := by
  induction h with
  | nil => exact h'
  | @openBlock brace _ _ hb _ ih => exact .openBlock hb (ih (hxs.of_append [brace]))
  | @closeBlock brace _ _ hb _ ih => exact .closeBlock hb (ih (hxs.of_append [brace]))
  | @declaration type name body rest _ ht hn hb _ ih =>
    have hname : EndsInSemicolon (name :: (body.tokens ++ rest)) := hxs.of_append [type]
    have hrest : EndsInSemicolon rest := hname.of_append (name :: body.tokens)
    have hs := hb.semicolon_ne_none hn hname
    rw [List.cons_append, List.cons_append, List.append_assoc]
    exact .declaration ht hn (hb.of_semicolon hs _) (ih hrest)
  | @loneType type rest _ ht hn _ ih =>
    have hrest : EndsInSemicolon rest := hxs.of_append [type]
    rcases rest with _ | ⟨u, rest⟩
    · -- the keyword is no semicolon, so it is not the last token
      have hk : type.kind = .semicolon := hxs type rfl
      rw [kind_of_isTypeKeyword ht] at hk
      cases hk
    · exact .loneType ht hn (ih hrest)
  | @assignment name body rest _ hn hb _ ih =>
    have hrest : EndsInSemicolon rest := hxs.of_append (name :: body.tokens)
    have hs := hb.semicolon_ne_none hn hxs
    rw [List.cons_append, List.append_assoc]
    exact .assignment hn (hb.of_semicolon hs _) (ih hrest)
  | @other u _ _ ho hc hi ht _ ih => exact .other ho hc hi ht (ih (hxs.of_append [u]))

theorem statements_append (hxs : EndsInSemicolon xs) (ys : List Token) :
    statements (xs ++ ys) = statements xs ++ statements ys :=
  ((items_statements xs).append (items_statements ys) hxs).eq_statements.symm

/-! ### Checks -/

theorem beforeEnd_append (hxs : ∀ u ∈ xs, u.kind ≠ .endOfInput) (ys : List Token) :
    beforeEnd (xs ++ ys) = xs ++ beforeEnd ys :=
  List.takeWhile_append_of_pos fun u hu => decide_eq_true (hxs u hu)

theorem fromEnd_append (hxs : ∀ u ∈ xs, u.kind ≠ .endOfInput) (ys : List Token) :
    fromEnd (xs ++ ys) = fromEnd ys :=
  List.dropWhile_append_of_pos fun u hu => decide_eq_true (hxs u hu)

theorem beforeEnd_eq_self (hxs : ∀ u ∈ xs, u.kind ≠ .endOfInput) : beforeEnd xs = xs := by
  have h := beforeEnd_append hxs []
  rwa [List.append_nil, show beforeEnd [] = [] from rfl, List.append_nil] at h

theorem openBraces_eq_nil_of_findings
    (h : ∀ f ∈ (Checker.check ⟨xs⟩ t).findings, f.record.message ≠ "Missing closing brace") :
    (CheckState.run ⟨t, []⟩ (statements (beforeEnd xs))).openBraces = [] := by
  have hmissing := missingBraces_findings t xs
  rw [missingBraces, List.filter_eq_nil_iff.mpr] at hmissing
  · exact List.map_eq_nil_iff.mp hmissing.symm
  · intro r hr
    obtain ⟨f, hf, rfl⟩ := List.mem_map.mp hr
    rw [decide_eq_true_eq]
    exact h f hf

theorem Checker.check_of_closed (hend : ∀ u ∈ xs, u.kind ≠ .endOfInput)
    (hclosed : (CheckState.run ⟨t, []⟩ (statements xs)).openBraces = []) :
    Checker.check ⟨xs⟩ t =
      ⟨⟨fromEnd xs⟩, (CheckState.run ⟨t, []⟩ (statements xs)).table,
        CheckState.reportAll ⟨t, []⟩ (statements xs),
        CheckState.traceAll ⟨t, []⟩ (statements xs)⟩ := by
  rw [Checker.check, beforeEnd_eq_self hend, CheckState.unclosed, hclosed, List.map_nil,
    List.append_nil]

theorem Checker.check_append (hend : ∀ u ∈ xs, u.kind ≠ .endOfInput) (hsemi : EndsInSemicolon xs)
    (hclosed : (CheckState.run ⟨t, []⟩ (statements xs)).openBraces = []) (ys : List Token) :
    Checker.check ⟨xs ++ ys⟩ t =
      { checker := (Checker.check ⟨ys⟩ (Checker.check ⟨xs⟩ t).table).checker
        table := (Checker.check ⟨ys⟩ (Checker.check ⟨xs⟩ t).table).table
        findings := (Checker.check ⟨xs⟩ t).findings ++
          (Checker.check ⟨ys⟩ (Checker.check ⟨xs⟩ t).table).findings
        events := (Checker.check ⟨xs⟩ t).events ++
          (Checker.check ⟨ys⟩ (Checker.check ⟨xs⟩ t).table).events } := by
  -- the state between the two is a table without open blocks, as a check starts
  have hstate : CheckState.run ⟨t, []⟩ (statements xs) =
      ⟨(CheckState.run ⟨t, []⟩ (statements xs)).table, []⟩ := congrArg (CheckState.mk _) hclosed
  rw [check_of_closed hend hclosed, Checker.check, beforeEnd_append hend, fromEnd_append hend,
    statements_append hsemi, CheckState.run_append, CheckState.reportAll_append,
    CheckState.traceAll_append, hstate, List.append_assoc]
  rfl

/-- **A token list can be checked in two parts**, if the first one ends in a semicolon, has no end
of input and leaves no block open. A check of the first part and another one of the second, on the
same symbol table and with the same log of diagnostics, are the check of both in one. -/
theorem check_in_parts (s : Session) {xs : List Token} (ys : List Token)
    (hend : ∀ u ∈ xs, u.kind ≠ .endOfInput) (hsemi : EndsInSemicolon xs)
    (hbraces : ∀ f ∈ (Checker.check ⟨xs⟩ s.table).findings,
      f.record.message ≠ "Missing closing brace") :
    (s.checkTokens xs).checkTokens ys = s.checkTokens (xs ++ ys) := by
  have hclosed := openBraces_eq_nil_of_findings hbraces
  rw [beforeEnd_eq_self hend] at hclosed
  have h := Checker.check_append hend hsemi hclosed ys
  simp only [Session.checkTokens, Session.runChecker, h, DiagnosticLog.reportAll, List.map_append,
    List.append_assoc]

/-- A session in which a block is open, with `b` declared in it. -/
def nestedSession : Session where
  diagnostics := ⟨[⟨.semantic, some 1, "Missing closing brace"⟩]⟩
  table := ⟨⟨[("b", "int-local")]⟩, [{}], []⟩

/-- A closed block in which an unknown name is used, and a statement that lacks its value. -/
def blockAndUse : List Token :=
  [⟨.openBrace, "\x7b", 2⟩, ⟨.keyword, "int", 2⟩, ⟨.identifier, "a", 2⟩, ⟨.operator, "=", 2⟩,
    ⟨.identifier, "c", 3⟩, ⟨.semicolon, ";", 3⟩, ⟨.closeBrace, "\x7d", 4⟩, ⟨.identifier, "b", 4⟩,
    ⟨.semicolon, ";", 4⟩]

/-- A closing brace whose block the check does not have open, and a use of a name whose block is
closed. -/
def strayAndUse : List Token :=
  [⟨.closeBrace, "\x7d", 5⟩, ⟨.identifier, "a", 5⟩, ⟨.operator, "=", 5⟩, ⟨.identifier, "b", 6⟩]

/-- The block that is open from before is not closed, in two parts as in one. -/
theorem check_in_parts_of_nested :
    (∀ u ∈ blockAndUse, u.kind ≠ .endOfInput) ∧ EndsInSemicolon blockAndUse ∧
      (∀ f ∈ (Checker.check ⟨blockAndUse⟩ nestedSession.table).findings,
        f.record.message ≠ "Missing closing brace") ∧
      (nestedSession.checkTokens blockAndUse).checkTokens strayAndUse =
        nestedSession.checkTokens (blockAndUse ++ strayAndUse) ∧
      (nestedSession.checkTokens (blockAndUse ++ strayAndUse)).table =
        ⟨⟨[("b", "int-local")]⟩, [{}], [⟨[("a", "int-local")]⟩]⟩ := by
  have hend : ∀ u ∈ blockAndUse, u.kind ≠ .endOfInput := by decide
  have hsemi : EndsInSemicolon blockAndUse := by
    intro u hu
    obtain rfl := Option.some.inj hu
    rfl
  have hbraces : ∀ f ∈ (Checker.check ⟨blockAndUse⟩ nestedSession.table).findings,
      f.record.message ≠ "Missing closing brace" := by decide +kernel
  exact ⟨hend, hsemi, hbraces, check_in_parts nestedSession strayAndUse hend hsemi hbraces,
    by decide +kernel⟩

end BlockLang
