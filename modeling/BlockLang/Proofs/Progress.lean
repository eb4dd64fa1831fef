import BlockLang.Proofs.Checking.Walk
import BlockLang.Proofs.Lexing.ScannerRun
import Mathlib.Algebra.BigOperators.Group.List.Basic

/-! # Progress

The scan of a text and the walk over its tokens are loops over a position. One call of either gives
a result wherever the position is, as long as it is before the end; it goes forward, and not beyond
the end. So both loops end.

* `Scanner.exists_scan?_forward`: one call of the scan, with the lines that it counts.
* `length_tokenize_le`: there are no more tokens than characters, but for the end of input.
* `Walk.exists_statement?_forward`: one call of the walk.
* `Walk.Calls`: the calls of a walk, each told by the positions that it passes. They pass every
  position before the end of input once and in order (`Walk.exists_calls`). -/

namespace BlockLang

/-! ### The scan -/

/-- **One call of the scan goes forward.** It reads nothing behind the end of the text, since there
reading fails, and it counts the line feeds among what it reads. -/
theorem Scanner.exists_scan?_forward {s : Scanner} (h : s.position < s.source.length)
    (limit : Int) : ∃ t s', s.scan? limit = some (t, s') ∧ s'.source = s.source ∧
      s.position < s'.position ∧ s'.position ≤ s.source.length ∧
      s'.line = s.line +
        ((s.source.drop s.position).take (s'.position - s.position)).count '\n' := by
  have hgo : ¬s.atEnd = true := by
    rw [atEnd, decide_eq_true_eq]
    omega
  obtain ⟨c, rest, hahead, hscan⟩ := exists_scan? hgo limit
  have htext : s.ahead = (headSegment c rest).text ++ rest.drop (classify c rest).2 := by
    rw [hahead, headSegment_append]
  have hlength : s.source.length - s.position =
      (headSegment c rest).text.length + (rest.drop (classify c rest).2).length := by
    rw [← List.length_append, ← htext, ahead, List.length_drop]
  have hpos : 0 < (headSegment c rest).text.length := Nat.succ_pos _
  refine ⟨_, _, hscan, rfl, ?_, ?_, ?_⟩
  · show s.position < s.position + (headSegment c rest).text.length
    omega
  · show s.position + (headSegment c rest).text.length ≤ s.source.length
    omega
  · show s.line + (lineBreaks (headSegment c rest).text : Int) = s.line + ((s.source.drop
      s.position).take (s.position + (headSegment c rest).text.length - s.position)).count '\n'
    rw [Nat.add_sub_cancel_left, ← ahead, htext, List.take_left]
    rfl

theorem length_tokensFrom_le (segs : List Segment) (line : Int) :
    (tokensFrom line segs).length ≤ segs.length + 1 := by
  induction segs generalizing line with
  | nil => exact Nat.le_refl _
  | cons s segs ih =>
    have htoken : (s.token? line).toList.length ≤ 1 := by
      rcases s.token? line with _ | t <;> simp
    have hrest := ih (line + lineBreaks s.text)
    rw [tokensFrom, List.length_append, List.length_cons]
    omega

theorem length_segments_le (text : List Char) : (segments text).length ≤ text.length := by
  have hpos : ∀ n ∈ (segments text).map (·.text.length), 1 ≤ n := by
    intro n hn
    obtain ⟨s, hs, rfl⟩ := List.mem_map.mp hn
    exact List.length_pos_iff.mpr (text_ne_nil_of_mem_segments hs)
  have hsum := List.length_le_sum_of_one_le _ hpos
  have htext := congrArg List.length (flatten_segments text)
  rw [List.length_flatten, List.map_map] at htext
  rw [List.length_map] at hsum
  exact hsum.trans htext.le

/-- **There are at most as many tokens as characters**, but for the end of input. -/
theorem length_tokenize_le (source : String) :
    (tokenize source).length ≤ source.length + 1 := by
  have htokens := length_tokensFrom_le (segments source.toList) 1
  have hsegments := length_segments_le source.toList
  rw [String.length_toList] at hsegments
  unfold tokenize
  omega

/-! ### The walk -/

namespace Walk

variable {w : Walk}

/-- A run of the walk, call by call. Each call is told by the positions that it has passed. -/
inductive Calls : Walk → List (List Nat) → Walk → Prop
  | done {w : Walk} : w.atEnd = true → Calls w [] w
  | call {w w' w'' : Walk} {calls : List (List Nat)} :
      w.atEnd = false → w.statement? = some w' → Calls w' calls w'' →
      Calls w (List.range' w.position (w'.position - w.position) :: calls) w''

theorem exists_statement?_of_not_atEnd (h : ¬w.atEnd = true) : ∃ w' ts, w.statement? = some w' ∧
    w'.tokens = w.tokens ∧ w'.position = w.position + ts.length ∧ ts ≠ [] ∧
    w.ahead = ts ++ w'.ahead := by
  obtain ⟨t, rest, hahead⟩ := exists_ahead h
  obtain ⟨w', hw', hpass⟩ := exists_statement? hahead
  exact ⟨w', _, hw', hpass.tokens, hpass.position, Statement.tokens_ne_nil _, hpass.ahead⟩

theorem length_ahead_le (w : Walk) : w.ahead.length ≤ w.tokens.length - w.position := by
  have hle := (List.takeWhile_sublist (l := w.tokens.drop w.position)
    fun t : Token => decide (t.kind ≠ .endOfInput)).length_le
  rw [List.length_drop] at hle
  exact hle

theorem exists_statement?_forward (h : w.atEnd = false) : ∃ w', w.statement? = some w' ∧
    w'.tokens = w.tokens ∧ w.position < w'.position ∧ w'.position ≤ w.tokens.length := by
  obtain ⟨w', ts, hw', htokens, hposition, hne, hahead⟩ :=
    exists_statement?_of_not_atEnd (ne_true_of_eq_false h)
  have hpos := List.length_pos_iff.mpr hne
  have hlength := w.length_ahead_le
  rw [hahead, List.length_append] at hlength
  exact ⟨w', hw', htokens, by omega, by omega⟩

/-- **The calls of a run pass every position ahead once**, in order, and no other one. -/
theorem exists_calls (w : Walk) : ∃ calls w', Calls w calls w' ∧ w.run? = some w' ∧
    calls.flatten = List.range' w.position w.ahead.length ∧ ∀ ps ∈ calls, ps ≠ [] := by
  fun_induction run? w with
  | case1 w hend =>
    rw [atEnd_iff.mp hend]
    exact ⟨[], w, .done hend, rfl, rfl, List.forall_mem_nil _⟩
  | case2 w hgo hnone =>
    obtain ⟨w', -, hw', -⟩ := exists_statement?_of_not_atEnd hgo
    rw [hw'] at hnone
    cases hnone
  | case3 w hgo w₁ hw₁ _ ih =>
    obtain ⟨w₂, ts, hw₂, -, hposition, hne, hahead⟩ := exists_statement?_of_not_atEnd hgo
    obtain rfl : w₂ = w₁ := Option.some.inj (hw₂.symm.trans hw₁)
    obtain ⟨calls, w', hcalls, hrun, hflatten, hnonempty⟩ := ih
    -- the slice of this call ends where those of the other calls begin
    have hpassed : w₂.position - w.position = ts.length := by omega
    have hpos := List.length_pos_iff.mpr hne
    refine ⟨_, w', .call (Bool.eq_false_iff.mpr hgo) hw₁ hcalls, hrun, ?_, ?_⟩
    · rw [List.flatten_cons, hflatten, hpassed, hposition, List.range'_append_1, hahead,
        List.length_append]
    · refine List.forall_mem_cons.mpr ⟨?_, hnonempty⟩
      rw [ne_eq, List.range'_eq_nil_iff]
      omega

end Walk

/-! ### Both -/

/-- **The scan and the walk go forward and end.** Reading fails behind the end of a text, and one
call of the scan at any position before the end does not fail: it leaves the text as it is, goes
forward but not beyond the end, and counts the line feeds that it has read. So a scan ends, with at
most one token more than the text has characters. One call of the walk at any position before the
end does not fail, leaves the tokens as they are and goes forward, but not beyond the end of the
list. So a walk ends, and its calls pass each token before the first end of input once. -/
theorem scan_and_walk_advance (limit : Int) :
    (∀ s : Scanner, s.read? = none ↔ s.source.length ≤ s.position) ∧
    (∀ s : Scanner, s.position < s.source.length →
      ∃ t s', s.scan? limit = some (t, s') ∧ s'.source = s.source ∧ s.position < s'.position ∧
        s'.position ≤ s.source.length ∧ s'.line = s.line +
          ((s.source.drop s.position).take (s'.position - s.position)).count '\n') ∧
    (∀ source : String, ∃ s, (Scanner.start source.toList).run? limit [] =
        some (tokenize source, s) ∧ s.position = source.length ∧
      s.findings = lexicalFindings limit source ∧
      (tokenize source).length ≤ source.length + 1) ∧
    (∀ w : Walk, w.atEnd = false → ∃ w', w.statement? = some w' ∧ w'.tokens = w.tokens ∧
      w.position < w'.position ∧ w'.position ≤ w.tokens.length) ∧
    ∀ (tokens : List Token) (t : SymbolTable), ∃ calls w,
      (Walk.start tokens t).Calls calls w ∧ (Walk.start tokens t).check? = some w.close ∧
      w.close.findings = (Checker.check ⟨tokens⟩ t).findings ∧
      w.close.state.table = (Checker.check ⟨tokens⟩ t).table ∧
      calls.flatten = List.range (beforeEnd tokens).length ∧ ∀ ps ∈ calls, ps ≠ [] := by
  refine ⟨fun s => ?_, fun s h => Scanner.exists_scan?_forward h limit, fun source => ?_,
    fun w => Walk.exists_statement?_forward, fun tokens t => ?_⟩
  · rw [Scanner.read?_eq_none_iff, Scanner.atEnd, decide_eq_true_eq]
  · refine ⟨_, (Scanner.start source.toList).run?_eq limit [], ?_, rfl, length_tokenize_le source⟩
    show 0 + source.toList.length = source.length
    rw [Nat.zero_add, String.length_toList]
  · obtain ⟨calls, w, hcalls, hrun, hflatten, hnonempty⟩ := (Walk.start tokens t).exists_calls
    have hcheck : (Walk.start tokens t).check? = some w.close := by
      rw [Walk.check?, hrun, Option.map_some]
    have hclose := Option.some.inj (hcheck.symm.trans (Walk.check?_start tokens t))
    refine ⟨calls, w, hcalls, hcheck, ?_, ?_, ?_, hnonempty⟩
    · rw [hclose]
    · rw [hclose]
    · rw [hflatten, List.range_eq_range']
      rfl

end BlockLang
