import BlockLang.Automaton.Builder
import BlockLang.Proofs.Automaton.LongestMatch
import Mathlib.Order.Bounds.Defs

/-! # The longest match of automata that are built

Whatever calls are made on a builder, the failed ones included, its transitions lead to states that
it has (`Builder.Allocated`, kept by every call). So an automaton that is built never leaves its
states, and its longest match is told by its runs alone.

* `Leads`: a run, from one state through the transitions of `stepAt` to another.
* `MatchesAt`: some characters of a text from an offset on are a run from the start to an accepting
  state. The longest match is the greatest number of them (`isGreatest_longestMatchAt`).
* `longestFrom_of_stuck`: the scan ends at the first character that leads nowhere. -/

namespace BlockLang

/-! ### Calls on a builder -/

namespace Builder

variable {b : Builder}

/-- **All states that are used are there**: the start state and the targets of the transitions. -/
structure Allocated (b : Builder) : Prop where
  start_lt : ∀ q ∈ b.start, q < b.nodes.length
  target_lt : ∀ q s q', b.target? q s = some q' → q' < b.nodes.length

theorem allocated_empty : Allocated {} where
  start_lt _ h := nomatch h
  target_lt _ _ _ h := nomatch h

theorem lt_of_state? {i : Int} {q : Nat} (h : b.state? i = some q) : q < b.nodes.length := by
  rw [state?] at h
  split at h
  · next hi => obtain rfl := Option.some.inj h; omega
  · cases h

theorem target?_addState (accepting : Bool) (q : Nat) (s : Symbol) :
    (b.addState accepting).target? q s = b.target? q s := by
  rw [target?, target?, addState]
  dsimp only
  rcases Nat.lt_trichotomy q b.nodes.length with hq | rfl | hq
  · rw [List.getElem?_append_left hq]
  · simp
  · rw [List.getElem?_eq_none (by simp; omega), List.getElem?_eq_none (Nat.le_of_lt hq)]

theorem length_setTransition (b : Builder) (source : Nat) (s : Symbol) (target : Nat) :
    (b.setTransition source s target).nodes.length = b.nodes.length :=
  List.length_modify _ _ _

theorem target?_setTransition {source target : Nat} {s s' : Symbol} {q q' : Nat}
    (h : (b.setTransition source s target).target? q s' = some q') :
    q' = target ∨ b.target? q s' = some q' := by
  rw [target?, setTransition] at h
  dsimp only at h
  rw [List.getElem?_modify] at h
  rcases hn : b.nodes[q]? with _ | node
  · rw [hn] at h; cases h
  · rw [hn] at h
    by_cases hq : source = q ∧ s' = s
    · obtain ⟨rfl, rfl⟩ := hq
      left
      simpa [Node.withTransition, eq_comm] using h
    · right
      rw [target?, hn]
      by_cases hsource : source = q
      · have hs : s' ≠ s := fun hs => hq ⟨hsource, hs⟩
        simpa [hsource, Node.withTransition, hs] using h
      · simpa [hsource] using h

namespace Allocated

theorem addState (h : b.Allocated) (accepting : Bool) : (b.addState accepting).Allocated := by
  have hlen : b.nodes.length < (b.addState accepting).nodes.length := by simp [Builder.addState]
  refine ⟨fun q hq => Nat.lt_trans (h.start_lt q hq) hlen, fun q s q' hq => ?_⟩
  rw [target?_addState] at hq
  exact Nat.lt_trans (h.target_lt q s q' hq) hlen

theorem setStart (h : b.Allocated) (i : Int) : (b.setStart i).1.Allocated := by
  rw [Builder.setStart]
  split
  · exact h
  · next q hq =>
    refine ⟨fun q' hq' => ?_, h.target_lt⟩
    obtain rfl := Option.some.inj hq'
    exact lt_of_state? hq

theorem setTransition (h : b.Allocated) (source : Nat) (s : Symbol) {target : Nat}
    (ht : target < b.nodes.length) : (b.setTransition source s target).Allocated := by
  have hlen := b.length_setTransition source s target
  refine ⟨fun q hq => hlen ▸ h.start_lt q hq, fun q s' q' hq => hlen ▸ ?_⟩
  rcases target?_setTransition hq with rfl | hq
  · exact ht
  · exact h.target_lt q s' q' hq

theorem addSymbols (h : b.Allocated) (source : Nat) {target : Nat} (ht : target < b.nodes.length)
    (symbols : List String) : (b.addSymbols source target symbols).1.Allocated := by
  induction symbols generalizing b with
  | nil => exact h
  | cons text rest ih =>
    rw [Builder.addSymbols]
    split
    · exact h
    · next s _ =>
      split
      · exact ih (h.setTransition source s ht) (by rw [length_setTransition]; exact ht)
      · split
        · exact ih h ht
        · exact h

theorem addTransitions (h : b.Allocated) (source : Int) (symbols : List String) (target : Int) :
    (b.addTransitions source symbols target).1.Allocated := by
  rw [Builder.addTransitions]
  split
  · exact h
  · split
    · exact h
    · next hq => exact h.addSymbols _ (lt_of_state? hq) symbols

/-- **Every call keeps the states allocated**, also one that fails. -/
theorem call (h : b.Allocated) : ∀ c : Call, (b.call c).1.Allocated
  | .addState accepting => h.addState accepting
  | .setStart state => h.setStart state
  | .addTransitions source symbols target => h.addTransitions source symbols target

theorem after (h : b.Allocated) (calls : List Call) : (b.after calls).Allocated := by
  induction calls generalizing b with
  | nil => exact h
  | cons c calls ih => exact ih (h.call c)

end Allocated

end Builder

namespace Automaton

variable {a : Automaton}

/-! ### Runs -/

/-- **A run**: some characters lead from a state to another one, through a transition each. -/
inductive Leads (a : Automaton) : Nat → List Char → Nat → Prop
  | nil {q : Nat} : Leads a q [] q
  | cons {q q' q'' : Nat} {c : Char} {cs : List Char} :
      a.stepAt q (String.singleton c) = .to q' → Leads a q' cs q'' → Leads a q (c :: cs) q''

/-- The characters from `p` up to `p + n` of a text exist, and are a run from the start to an
accepting state. -/
def MatchesAt (a : Automaton) (text : List Char) (p n : Nat) : Prop :=
  p + n ≤ text.length ∧ ∃ q, a.Leads a.start ((text.drop p).take n) q ∧ a.isAccepting q = true

theorem ofString?_singleton (c : Char) :
    Symbol.ofString? (String.singleton c) = Symbol.ofChar? c := by
  simp only [Symbol.ofString?, String.toList_singleton]

theorem nodeAt?_natCast (a : Automaton) (q : Nat) : a.nodeAt? q = a.nodes[q]? :=
  if_pos (Int.natCast_nonneg q)

theorem stepAt_eq_to_iff {q q' : Nat} {c : Char} :
    a.stepAt q (String.singleton c) = .to q' ↔ a.step? q c = some q' := by
  rw [stepAt, ofString?_singleton, nodeAt?_natCast, step?]
  rcases Symbol.ofChar? c with _ | s
  · rcases a.nodes[q]? with _ | node <;> simp
  · rcases a.nodes[q]? with _ | node
    · simp
    · rcases h : node.next s with _ | q'' <;> simp [h]

theorem leads_iff {q q' : Nat} {text : List Char} :
    a.Leads q text q' ↔ a.run? q text = some q' := by
  constructor
  · intro h
    induction h with
    | nil => rfl
    | cons hs _ ih => rw [run?, stepAt_eq_to_iff.mp hs]; exact ih
  · intro h
    induction text generalizing q with
    | nil => obtain rfl := Option.some.inj h; exact .nil
    | cons c cs ih =>
      obtain ⟨q'', hs, hr⟩ := Option.bind_eq_some_iff.mp h
      exact .cons (stepAt_eq_to_iff.mpr hs) (ih hr)

theorem reaches_iff_leads {q : Nat} {text : List Char} :
    a.Reaches q text ↔ ∃ q', a.Leads q text q' ∧ a.isAccepting q' = true := by
  simp only [Reaches, leads_iff]

/-! ### The longest match -/

theorem toNat_max_zero (start : Int) : (max start 0).toNat = start.toNat := by omega

theorem isGreatest_longestMatchAt (a : Automaton) (text : List Char) (start : Int) :
    IsGreatest {n | n = 0 ∨ a.MatchesAt text (max start 0).toNat n}
      (a.longestMatchAt text start) := by
  have hlen : (text.drop start.toNat).length = text.length - start.toNat := List.length_drop
  have hreach := isLongestReach_longestFrom (a := a) (text.drop start.toNat) a.start
  have hle : a.longestMatchAt text start ≤ text.length - start.toNat := hlen ▸ hreach.le_length
  rw [toNat_max_zero]
  constructor
  · by_cases h0 : a.longestMatchAt text start = 0
    · exact Or.inl h0
    · exact Or.inr ⟨by omega, reaches_iff_leads.mp (hreach.reaches h0)⟩
  · rintro n (rfl | ⟨hn, hr⟩)
    · exact Nat.zero_le _
    · by_cases h0 : n = 0
      · rw [h0]; exact Nat.zero_le _
      · have hn' : ((text.drop start.toNat).take n).length = n :=
          List.length_take_of_le (by omega)
        have hne : (text.drop start.toNat).take n ≠ [] := by
          intro hnil; rw [hnil] at hn'; exact h0 hn'.symm
        rw [← hn']
        exact hreach.length_le _ (List.take_prefix _ _) hne (reaches_iff_leads.mpr hr)

/-- **What is accepted is a run of at least one character.** -/
theorem accepts_iff {text : List Char} : a.accepts text = true ↔
    text ≠ [] ∧ ∃ q, a.Leads a.start text q ∧ a.isAccepting q = true := by
  have hreach := isLongestReach_longestFrom (a := a) text a.start
  rw [accepts, Bool.and_eq_true, beq_iff_eq, Bool.not_eq_true', List.isEmpty_eq_false_iff,
    ← reaches_iff_leads]
  refine and_congr_right fun hne => ⟨fun hl => ?_, fun hr => ?_⟩
  · have h0 : a.longestFrom a.start text ≠ 0 := by
      rw [show a.longestFrom a.start text = text.length from hl]
      exact fun h => hne (List.length_eq_zero_iff.mp h)
    have hr := hreach.reaches h0
    rwa [show a.longestFrom a.start text = text.length from hl, List.take_length] at hr
  · exact Nat.le_antisymm hreach.le_length (hreach.length_le text List.prefix_rfl hne hr)

/-- **More text never makes the match shorter.** -/
theorem longestFrom_le_append (q : Nat) (text more : List Char) :
    a.longestFrom q text ≤ a.longestFrom q (text ++ more) := by
  have hreach := isLongestReach_longestFrom (a := a) text q
  by_cases h0 : a.longestFrom q text = 0
  · rw [h0]; exact Nat.zero_le _
  · have hlen : (text.take (a.longestFrom q text)).length = a.longestFrom q text :=
      List.length_take_of_le hreach.le_length
    have hne : text.take (a.longestFrom q text) ≠ [] := by
      intro hnil; rw [hnil] at hlen; exact h0 hlen.symm
    calc a.longestFrom q text
        = (text.take (a.longestFrom q text)).length := hlen.symm
      _ ≤ a.longestFrom q (text ++ more) :=
        (isLongestReach_longestFrom (text ++ more) q).length_le _
          ((List.take_prefix _ _).trans (List.prefix_append _ _)) hne (hreach.reaches h0)

theorem longestMatchAt_le_append (a : Automaton) (text more : List Char) (start : Int) :
    a.longestMatchAt text start ≤ a.longestMatchAt (text ++ more) start := by
  rw [longestMatchAt, longestMatchAt, List.drop_append]
  exact longestFrom_le_append _ _ _

/-- **The scan ends at the first character that leads nowhere.** -/
theorem longestFrom_of_stuck {l : List Char} {c : Char} (rest : List Char) :
    ∀ {q : Nat}, a.run? q (l ++ [c]) = none →
      a.longestFrom q (l ++ c :: rest) = a.longestFrom q l := by
  induction l with
  | nil =>
    intro q h
    have hs : a.step? q c = none := by simpa [run?] using h
    exact longestFrom_cons_of_none hs
  | cons d l ih =>
    intro q h
    rcases hs : a.step? q d with _ | q'
    · rw [List.cons_append, longestFrom_cons_of_none hs, longestFrom_cons_of_none hs]
    · have hr : a.run? q' (l ++ [c]) = none := by simpa [run?, hs] using h
      rw [List.cons_append, longestFrom_cons_of_some hs, longestFrom_cons_of_some hs, ih hr]

theorem longestMatchAt_of_stuck {text l rest : List Char} {c : Char} {start : Int}
    (ht : text.drop (max start 0).toNat = l ++ c :: rest)
    (hs : ∀ q, ¬ a.Leads a.start (l ++ [c]) q) :
    a.longestMatchAt text start = a.longestMatch l := by
  rw [toNat_max_zero] at ht
  rw [longestMatchAt, ht, longestMatch, longestMatch]
  refine longestFrom_of_stuck rest (Option.eq_none_iff_forall_ne_some.mpr fun q hq => ?_)
  exact hs q (leads_iff.mpr hq)

end Automaton

/-! ### Automata that are built -/

section Built

variable {calls : List Builder.Call} {name : String} {a : Automaton}

theorem Builder.Allocated.of_build {b : Builder} (hb : b.Allocated) (h : b.build name = .ok a) :
    a.start < a.stateCount ∧ ∀ q c q', a.step? q c = some q' → q' < a.stateCount := by
  rw [Builder.build] at h
  split at h
  · cases h
  · next q hq =>
    obtain rfl := Except.ok.inj h
    refine ⟨hb.start_lt q hq, fun p c q' hs => ?_⟩
    obtain ⟨node, hn, hs⟩ := Option.bind_eq_some_iff.mp hs
    obtain ⟨s, -, hs⟩ := Option.bind_eq_some_iff.mp hs
    refine hb.target_lt p s q' ?_
    rw [Builder.target?, show b.nodes[p]? = some node from hn]
    exact hs

theorem Automaton.Leads.lt_stateCount
    (ht : ∀ q c q', a.step? q c = some q' → q' < a.stateCount) {q q' : Nat} {text : List Char}
    (h : a.Leads q text q') (hq : q < a.stateCount) : q' < a.stateCount := by
  induction h with
  | nil => exact hq
  | cons hs _ ih => exact ih (ht _ _ _ (Automaton.stepAt_eq_to_iff.mp hs))

theorem Automaton.stepAt_ne_noSuchState {q : Nat} (hq : q < a.stateCount) (c : Char) :
    a.stepAt q (String.singleton c) ≠ .noSuchState := by
  rw [stepAt, ofString?_singleton, nodeAt?_natCast, List.getElem?_eq_getElem hq]
  rcases Symbol.ofChar? c with _ | s
  · simp
  · rcases h : a.nodes[q].next s with _ | q' <;> simp [h]

/-- **The longest match of an automaton that is built**, after any calls on the builder. A run never
leaves the states. The longest match is the greatest number of characters from the offset on that
are a run from the start to an accepting state, or `0`; a text is accepted iff it has a character
and is such a run. So the match never gets shorter with more text, does not depend on what comes
after the first character that leads nowhere, and depends only on the text from the offset on. -/
theorem longestMatch_of_built (h : (Builder.after {} calls).build name = .ok a) :
    (∀ text q, a.Leads a.start text q →
      q < a.stateCount ∧ ∀ c, a.stepAt q (String.singleton c) ≠ .noSuchState) ∧
    (∀ text start, IsGreatest {n | n = 0 ∨ a.MatchesAt text (max start 0).toNat n}
      (a.longestMatchAt text start)) ∧
    (∀ text, a.accepts text = true ↔
      text ≠ [] ∧ ∃ q, a.Leads a.start text q ∧ a.isAccepting q = true) ∧
    (∀ text more start, a.longestMatchAt text start ≤ a.longestMatchAt (text ++ more) start) ∧
    (∀ text text' start l c rest rest', (∀ q, ¬ a.Leads a.start (l ++ [c]) q) →
      text.drop (max start 0).toNat = l ++ c :: rest →
      text'.drop (max start 0).toNat = l ++ c :: rest' →
      a.longestMatchAt text start = a.longestMatchAt text' start) ∧
    ∀ text text' start start',
      text.drop (max start 0).toNat = text'.drop (max start' 0).toNat →
      a.longestMatchAt text start = a.longestMatchAt text' start' := by
  obtain ⟨hstart, htarget⟩ := (Builder.allocated_empty.after calls).of_build h
  refine ⟨fun text q hl => ?_, a.isGreatest_longestMatchAt, fun _ => Automaton.accepts_iff,
    a.longestMatchAt_le_append, fun text text' start l c rest rest' hs ht ht' => ?_,
    fun text text' start start' ht => ?_⟩
  · have hq := hl.lt_stateCount htarget hstart
    exact ⟨hq, Automaton.stepAt_ne_noSuchState hq⟩
  · rw [Automaton.longestMatchAt_of_stuck ht hs, Automaton.longestMatchAt_of_stuck ht' hs]
  · rw [Automaton.toNat_max_zero, Automaton.toNat_max_zero] at ht
    rw [Automaton.longestMatchAt, Automaton.longestMatchAt, ht]

/-- Calls that build an automaton for texts in which `a` and `b` take turns. It accepts after every
`a`. The last call fails. -/
def alternatingCalls : List Builder.Call :=
  [.addState false, .addState true, .setStart 0, .addTransitions 0 ["a"] 1,
    .addTransitions 1 ["b"] 0, .setStart 2]

/-- The match backs off to the last `a`. -/
theorem longestMatch_of_alternating :
    ∃ a, (Builder.after {} alternatingCalls).build "alternating" = .ok a ∧
      IsGreatest {n | n = 0 ∨ a.MatchesAt ['x', 'a', 'b', 'a', 'b', 'x'] 1 n} 3 := by
  have h : (Builder.after {} alternatingCalls).build "alternating" =
      .ok ⟨"alternating", (Builder.after {} alternatingCalls).nodes, 0⟩ := rfl
  exact ⟨_, h, (longestMatch_of_built h).2.1 ['x', 'a', 'b', 'a', 'b', 'x'] 1⟩

end Built

end BlockLang
