import BlockLang.Automaton.Transitions
import BlockLang.Proofs.Automaton.CallOrder

/-! # The list of transitions

The transitions of an automaton, listed by source and symbol, say everything that its table says.

* `Transition.Precedes`: the order of the list. It is strict (`Automaton.pairwise_transitions`), so
  no transition is listed twice, and a transition is listed iff it is in the table
  (`Automaton.mem_transitions_iff`).
* `Transition.bundle`: a transition as a bundle of one. What the bundles of the list ask for is what
  the builder of the automaton has (`Automaton.asks_bundles_iff`).
* `Automaton.rebuilding`: the requests that build an automaton again, from its states and its
  transitions one by one. None of them fails (`Automaton.failed_notMem_rebuilding`), and they lead
  to the builder of the automaton (`Automaton.afterAll_rebuilding`).

So an automaton that is built can be built again from its list (`rebuilt_of_transitions`). -/

namespace BlockLang

namespace Transition

/-- The order of transitions: by source, and by symbol where the source is the same. -/
def Precedes (t u : Transition) : Prop :=
  t.source < u.source ∨ (t.source = u.source ∧ t.symbol < u.symbol)

/-- A transition told as a triple of a source, a symbol and a target. -/
def triple (t : Transition) : Int × String × Int :=
  (t.source, String.singleton t.symbol.toChar, t.target)

/-- What a call asks for that adds one transition. -/
def bundle (t : Transition) : Builder.Bundle :=
  ⟨t.source, [String.singleton t.symbol.toChar], t.target⟩

theorem has_bundle_iff {t : Transition} {source target : Int} {text : String} :
    t.bundle.Has source text target ↔ (source, text, target) = t.triple := by
  simp only [Builder.Bundle.Has, bundle, triple, List.mem_singleton, Prod.mk.injEq,
    @eq_comm _ source, @eq_comm _ target]

end Transition

namespace Builder

theorem answers_append (b : Builder) (rs rs' : List Request) :
    b.answers (rs ++ rs') = b.answers rs ++ (b.afterAll rs).answers rs' := by
  induction rs generalizing b with
  | nil => rfl
  | cons r rs ih => rw [List.cons_append, answers, ih]; rfl

theorem calls_map_call (cs : List Call) : calls (cs.map .call) = cs := by
  induction cs with
  | nil => rfl
  | cons c cs ih => rw [List.map_cons, calls, ih]

theorem asks_bundles_iff {ts : List Transition} {source target : Int} {text : String} :
    Asks (ts.map Transition.bundle) source text target ↔
      (source, text, target) ∈ ts.map Transition.triple := by
  simp only [Asks, List.mem_map, exists_exists_and_eq_and, Transition.has_bundle_iff,
    @eq_comm _ (source, text, target)]

/-- The builder of some states, told by whether they accept, and of a start among them. -/
def withoutTransitions (accepting : List Bool) (start : Nat) : Builder :=
  ⟨accepting.map fun a => ⟨a, fun _ => none⟩, some start⟩

theorem afterAll_stateCalls {accepting : List Bool} {start : Nat}
    (hstart : start < accepting.length) :
    afterAll {} ((stateCalls accepting start).map .call) = withoutTransitions accepting start := by
  rw [afterAll_eq_after, calls_map_call]
  exact ofStates_eq accepting ⟨start, hstart⟩

theorem not_hasTransition_withoutTransitions {accepting : List Bool} {start : Nat}
    {source target : Int} {text : String} :
    ¬ (withoutTransitions accepting start).HasTransition source text target := by
  refine not_hasTransition_of_next_eq_none fun node hnode s => ?_
  obtain ⟨a, -, rfl⟩ := List.mem_map.mp hnode
  rfl

theorem goesThrough_withoutTransitions_iff {accepting : List Bool} {start : Nat}
    {es : List Bundle} : (withoutTransitions accepting start).GoesThrough es ↔
      (∀ e ∈ es, e.Proper accepting.length) ∧ Functional (Asks es) := by
  rw [goesThrough_iff, withoutTransitions, List.length_map, ← withoutTransitions]
  simp only [not_hasTransition_withoutTransitions, false_or]

theorem failed_notMem_addState (accepting : List Bool) (b : Builder) (e : BuildError) :
    .failed e ∉ b.answers ((accepting.map Call.addState).map .call) := by
  induction accepting generalizing b with
  | nil => exact List.not_mem_nil
  | cons a accepting ih =>
    intro h
    rcases List.mem_cons.mp h with h | h
    · cases h
    · exact ih _ h

/-- **States can always be added, and one of them made the start.** -/
theorem failed_notMem_stateCalls {accepting : List Bool} {start : Nat}
    (hstart : start < accepting.length) (e : BuildError) :
    .failed e ∉ answers {} ((stateCalls accepting start).map .call) := by
  have hset : ((after {} (accepting.map .addState)).setStart start).2 = none := by
    rw [nodes_after_addState, setStart, state?_eq_some_iff.mpr ⟨rfl, by simpa using hstart⟩]
  have hanswer : (afterAll {} ((accepting.map Call.addState).map .call)).answers
      [.call (.setStart start)] =
      [((after {} (accepting.map .addState)).setStart start).2.elim .done .failed] := by
    rw [afterAll_eq_after, calls_map_call]
    rfl
  rw [stateCalls, List.map_append, answers_append, List.mem_append, not_or]
  refine ⟨failed_notMem_addState accepting {} e, ?_⟩
  rw [List.map_singleton, hanswer, hset, List.mem_singleton]
  exact fun h => by cases h

end Builder

namespace Automaton

variable {a : Automaton}

/-! ### What is listed -/

/-- **The transitions that are listed** are those of the table. -/
theorem mem_transitions_iff {t : Transition} : t ∈ a.transitions ↔
    ∃ node, a.nodes[t.source]? = some node ∧ node.next t.symbol = some t.target := by
  simp only [transitions, List.mem_flatMap, Prod.exists, List.mem_zipIdx_iff_getElem?,
    transitionsOf, List.mem_filterMap, List.mem_finRange, true_and, Option.map_eq_some_iff]
  constructor
  · rintro ⟨node, source, hnode, s, target, hnext, rfl⟩
    exact ⟨node, hnode, hnext⟩
  · rintro ⟨node, hnode, hnext⟩
    exact ⟨node, t.source, hnode, t.symbol, t.target, hnext, rfl⟩

theorem source_of_mem_transitionsOf {source : Nat} {node : Node} {t : Transition}
    (h : t ∈ transitionsOf source node) : t.source = source := by
  obtain ⟨s, -, hs⟩ := List.mem_filterMap.mp h
  obtain ⟨target, -, rfl⟩ := Option.map_eq_some_iff.mp hs
  rfl

theorem pairwise_transitionsOf (source : Nat) (node : Node) :
    (transitionsOf source node).Pairwise Transition.Precedes := by
  rw [transitionsOf, List.pairwise_filterMap]
  refine (List.pairwise_lt_finRange 128).imp fun hlt t ht u hu => ?_
  obtain ⟨_, -, rfl⟩ := Option.map_eq_some_iff.mp ht
  obtain ⟨_, -, rfl⟩ := Option.map_eq_some_iff.mp hu
  exact Or.inr ⟨rfl, hlt⟩

/-- **The list is in order**, and no source and symbol are in it twice. -/
theorem pairwise_transitions (a : Automaton) : a.transitions.Pairwise Transition.Precedes := by
  have hzip : a.nodes.zipIdx.Pairwise fun p q => p.2 < q.2 := by
    rw [← List.pairwise_map (f := Prod.snd) (R := (· < ·)), List.zipIdx_map_snd]
    exact List.pairwise_lt_range'
  rw [transitions, List.pairwise_flatMap]
  refine ⟨fun p _ => pairwise_transitionsOf p.2 p.1, hzip.imp fun hlt t ht u hu => Or.inl ?_⟩
  rw [source_of_mem_transitionsOf ht, source_of_mem_transitionsOf hu]
  exact hlt

/-! ### Building an automaton again -/

/-- The requests that build an automaton again: as many states, of which the same ones accept, the
same start, and some transitions, one request each. -/
def rebuilding (a : Automaton) (ts : List Transition) : List Builder.Request :=
  (Builder.stateCalls ((List.range a.stateCount).map a.isAccepting) a.start).map .call ++
    Builder.requests (ts.map Transition.bundle)

theorem map_isAccepting_range (a : Automaton) :
    (List.range a.stateCount).map a.isAccepting = a.nodes.map Node.accepting := by
  refine List.ext_getElem (by simp [stateCount]) fun q hq hq' => ?_
  have hlt : q < a.nodes.length := by simpa using hq'
  simp [isAccepting, List.getElem?_eq_getElem hlt]

/-- The builder that has an automaton's states and transitions. -/
def builder (a : Automaton) : Builder := ⟨a.nodes, some a.start⟩

/-- **The bundles of the list ask for the transitions of the automaton.** -/
theorem asks_bundles_transitions_iff {source target : Int} {text : String} :
    Builder.Asks (a.transitions.map Transition.bundle) source text target ↔
      a.builder.HasTransition source text target := by
  rw [Builder.asks_bundles_iff, List.mem_map]
  constructor
  · rintro ⟨t, ht, he⟩
    obtain ⟨node, hnode, hnext⟩ := mem_transitions_iff.mp ht
    obtain ⟨rfl, rfl, rfl⟩ : t.source = source ∧ _ ∧ _ := by simpa [Transition.triple] using he
    exact ⟨t.source, t.symbol, t.target, rfl, Symbol.ofString?_eq_some_iff.mpr rfl, rfl,
      Option.bind_eq_some_iff.mpr ⟨node, hnode, hnext⟩⟩
  · rintro ⟨p, s, q, rfl, hs, rfl, ht⟩
    obtain ⟨node, hnode, hnext⟩ := Option.bind_eq_some_iff.mp ht
    refine ⟨⟨p, s, q⟩, mem_transitions_iff.mpr ⟨node, hnode, hnext⟩, ?_⟩
    rw [Symbol.ofString?_eq_some_iff.mp hs]
    rfl

theorem proper_bundle (ha : a.builder.Allocated) {t : Transition} (ht : t ∈ a.transitions) :
    t.bundle.Proper a.stateCount := by
  obtain ⟨node, hnode, hnext⟩ := mem_transitions_iff.mp ht
  have hsource : t.source < a.stateCount := (List.getElem?_eq_some_iff.mp hnode).1
  have htarget : t.target < a.stateCount :=
    ha.target_lt t.source t.symbol t.target (Option.bind_eq_some_iff.mpr ⟨node, hnode, hnext⟩)
  refine ⟨⟨Int.natCast_nonneg _, Int.ofNat_lt.mpr hsource⟩,
    ⟨Int.natCast_nonneg _, Int.ofNat_lt.mpr htarget⟩, fun text htext => ?_⟩
  refine ⟨t.symbol.toChar, List.mem_singleton.mp htext, ?_⟩
  rw [Symbol.toNat_toChar]
  exact t.symbol.isLt

variable {ts : List Transition}

theorem afterAll_stateCalls (ha : a.builder.Allocated) :
    Builder.afterAll {} ((Builder.stateCalls ((List.range a.stateCount).map a.isAccepting)
      a.start).map .call) = Builder.withoutTransitions (a.nodes.map Node.accepting) a.start := by
  rw [map_isAccepting_range]
  refine Builder.afterAll_stateCalls ?_
  rw [List.length_map]
  exact ha.start_lt a.start rfl

theorem goesThrough_bundles (ha : a.builder.Allocated) (hts : ts.Perm a.transitions) :
    (Builder.withoutTransitions (a.nodes.map Node.accepting) a.start).GoesThrough
      (ts.map Transition.bundle) := by
  rw [Builder.goesThrough_of_perm (hts.map Transition.bundle),
    Builder.goesThrough_withoutTransitions_iff, List.length_map]
  refine ⟨fun e he => ?_, fun source text q q' h h' => ?_⟩
  · obtain ⟨t, ht, rfl⟩ := List.mem_map.mp he
    exact proper_bundle ha ht
  · rw [asks_bundles_transitions_iff] at h h'
    exact a.builder.functional_hasTransition source text q q' h h'

/-- **No request fails that builds an automaton again**, in whatever order its transitions are. -/
theorem failed_notMem_rebuilding (ha : a.builder.Allocated) (hts : ts.Perm a.transitions)
    (e : BuildError) : .failed e ∉ Builder.answers {} (a.rebuilding ts) := by
  have hstart : a.start < ((List.range a.stateCount).map a.isAccepting).length := by
    rw [map_isAccepting_range, List.length_map]
    exact ha.start_lt a.start rfl
  rw [rebuilding, Builder.answers_append, List.mem_append, not_or, afterAll_stateCalls ha]
  exact ⟨Builder.failed_notMem_stateCalls hstart e, goesThrough_bundles ha hts e⟩

/-- **The requests lead to the same states and transitions.** -/
theorem afterAll_rebuilding (ha : a.builder.Allocated) (hts : ts.Perm a.transitions) :
    Builder.afterAll {} (a.rebuilding ts) = a.builder := by
  rw [rebuilding, Builder.afterAll_append, afterAll_stateCalls ha]
  refine Builder.eq_of_hasTransition ((Builder.sameStates_afterAll _).symm.trans ⟨?_, rfl⟩)
    fun source text target => ?_
  · rw [Builder.withoutTransitions, List.map_map]
    exact List.map_id _
  · rw [Builder.hasTransition_afterAll (goesThrough_bundles ha hts),
      or_iff_right Builder.not_hasTransition_withoutTransitions,
      Builder.asks_of_perm (hts.map Transition.bundle), asks_bundles_transitions_iff]

end Automaton

/-! ### Automata that are built -/

section Built

variable {calls : List Builder.Call} {name : String} {a : Automaton}

theorem Builder.eq_builder_of_build {b : Builder} (h : b.build name = .ok a) : b = a.builder := by
  rw [Builder.build] at h
  split at h
  · cases h
  · next q hq =>
    obtain rfl := Except.ok.inj h
    rw [Automaton.builder, ← hq]

theorem Automaton.longestFrom_named (other : String) (q : Nat) (text : List Char) :
    longestFrom { a with name := other } q text = a.longestFrom q text := by
  induction text generalizing q with
  | nil => rfl
  | cons c cs ih =>
    rcases hs : a.step? q c with _ | q'
    · rw [longestFrom_cons_of_none hs]
      exact longestFrom_cons_of_none hs
    · rw [longestFrom_cons_of_some hs, ← ih q']
      exact longestFrom_cons_of_some hs

theorem Automaton.mem_triples_iff {source target : Int} {text : String} :
    (source, text, target) ∈ a.transitions.map Transition.triple ↔
      (0 ≤ source ∧ source < a.stateCount) ∧
        ∃ q : Nat, target = q ∧ a.stepAt source text = .to q := by
  rw [← Builder.asks_bundles_iff, asks_bundles_transitions_iff]
  constructor
  · intro h
    obtain ⟨h0, hstep⟩ := hasTransition_iff_stepAt.mp h
    have hlt : source < a.stateCount := by
      obtain ⟨p, s, q, rfl, -, -, ht⟩ := h
      obtain ⟨node, hnode, -⟩ := Option.bind_eq_some_iff.mp ht
      exact Int.ofNat_lt.mpr (List.getElem?_eq_some_iff.mp hnode).1
    exact ⟨⟨h0, hlt⟩, hstep⟩
  · rintro ⟨⟨h0, -⟩, hstep⟩
    exact hasTransition_iff_stepAt.mpr ⟨h0, hstep⟩

/-- **The list of transitions says everything.** For an automaton that is built by any calls, its
transitions are listed in the strict order of their sources and symbols, and a triple of a state, a
symbol and a state is in the list iff the step from the one on the symbol leads to the other. A new
builder that is given as many states, of which the same ones accept, the same start, and the listed
transitions one by one, in any order, refuses nothing. It builds an automaton with the same start,
the same accepting states and the same steps, and so with the same matches on every text. -/
theorem rebuilt_of_transitions (h : (Builder.after {} calls).build name = .ok a) :
    a.transitions.Pairwise Transition.Precedes ∧
    (∀ source text target, (source, text, target) ∈ a.transitions.map Transition.triple ↔
      (0 ≤ source ∧ source < a.stateCount) ∧
        ∃ q : Nat, target = q ∧ a.stepAt source text = .to q) ∧
    ∀ (ts : List Transition) (other : String), ts.Perm a.transitions →
      (∀ e, .failed e ∉ Builder.answers {} (a.rebuilding ts)) ∧
      ∃ a', (Builder.afterAll {} (a.rebuilding ts)).build other = .ok a' ∧
        a'.stateCount = a.stateCount ∧ a'.start = a.start ∧
        a'.acceptingStates = a.acceptingStates ∧
        (∀ state text, a'.stepAt state text = a.stepAt state text) ∧
        ∀ text start, a'.longestMatchAt text start = a.longestMatchAt text start := by
  have ha : a.builder.Allocated := by
    rw [← Builder.eq_builder_of_build h]
    exact Builder.allocated_empty.after calls
  refine ⟨a.pairwise_transitions, fun _ _ _ => Automaton.mem_triples_iff, fun ts other hts =>
    ⟨Automaton.failed_notMem_rebuilding ha hts, { a with name := other }, ?_, rfl, rfl, rfl,
      fun _ _ => rfl, fun text start => Automaton.longestFrom_named other _ _⟩⟩
  rw [Automaton.afterAll_rebuilding ha hts]
  rfl

/-- The automaton for texts in which `a` and `b` take turns has two transitions. Built again from
the second and the first, it steps and matches as before. -/
theorem rebuilt_of_alternating :
    ∃ a, (Builder.after {} alternatingCalls).build "alternating" = .ok a ∧
      a.transitions.map Transition.triple = [(0, "a", 1), (1, "b", 0)] ∧
      (∀ e, .failed e ∉ Builder.answers {} (a.rebuilding a.transitions.reverse)) ∧
      ∃ a', (Builder.afterAll {} (a.rebuilding a.transitions.reverse)).build "again" = .ok a' ∧
        a'.stepAt 1 "b" = .to 0 ∧ a'.longestMatchAt ['x', 'a', 'b', 'a', 'b', 'x'] 1 = 3 := by
  have h : (Builder.after {} alternatingCalls).build "alternating" =
      .ok ⟨"alternating", (Builder.after {} alternatingCalls).nodes, 0⟩ := rfl
  obtain ⟨-, -, hbuilt⟩ := rebuilt_of_transitions h
  obtain ⟨hanswers, a', hbuild, -, -, -, hstep, hmatch⟩ :=
    hbuilt _ "again" (List.reverse_perm _)
  exact ⟨_, h, by decide +kernel, hanswers, a', hbuild, hstep 1 "b",
    hmatch ['x', 'a', 'b', 'a', 'b', 'x'] 1⟩

end Built

end BlockLang
