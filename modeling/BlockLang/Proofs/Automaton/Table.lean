import BlockLang.Proofs.Automaton.Built

/-! # The transition table of a builder

A builder is asked for one thing after another, and some requests fail. All the while its table
keeps its form, and what has been written into it stays.

* `Builder.Request`, `Builder.Answer`: what a builder can be asked, and what it answers. A request
  for an automaton leaves the builder as it is (`Builder.afterAll_eq_after`).
* `Builder.table`: the targets of the transitions, one row for each state with one entry for each
  symbol; `-1` stands for no transition.
* `Builder.TableInvariant`: the table and the states that are told apart name states only.
* `Builder.Keeps`: one builder has all transitions of another one. Every call keeps those that were
  there (`Builder.keeps_call`), so a whole run does (`Builder.keeps_afterAll`).
* `Automaton.scan?`: the scan for the longest match with the states that it asks for a step. It
  fails at a state that is not there, and on an automaton that is built it never does
  (`Automaton.scan?_eq`). -/

namespace BlockLang

/-! ### Requests -/

namespace Builder

variable {b b' : Builder}

/-- What a builder can be asked: to carry out a call, or for an automaton. -/
inductive Request
  | call (c : Call)
  | build (name : String)
  deriving DecidableEq, Repr

/-- What a builder answers: the number of a state that it has added, what went wrong, or an
automaton. -/
inductive Answer
  | done
  | added (state : Nat)
  | failed (e : BuildError)
  | built (a : Automaton)

/-- The builder after a request, and its answer. -/
def answer (b : Builder) : Request → Builder × Answer
  | .call (.addState accepting) => (b.addState accepting, .added b.nodes.length)
  | .call c => ((b.call c).1, (b.call c).2.elim .done .failed)
  | .build name =>
    match b.build name with
    | .ok a => (b, .built a)
    | .error e => (b, .failed e)

/-- The builder after some requests, the failed ones included. -/
def afterAll (b : Builder) (rs : List Request) : Builder := rs.foldl (fun b r => (b.answer r).1) b

/-- The answers to some requests. -/
def answers (b : Builder) : List Request → List Answer
  | [] => []
  | r :: rs => (b.answer r).2 :: (b.answer r).1.answers rs

/-- The calls among some requests. -/
def calls : List Request → List Call
  | [] => []
  | .call c :: rs => c :: calls rs
  | .build _ :: rs => calls rs

theorem answer_call (b : Builder) (c : Call) :
    (b.answer (.call c)).1 = (b.call c).1 ∧ ∀ a, (b.answer (.call c)).2 ≠ .built a := by
  cases c with
  | addState accepting => exact ⟨rfl, fun _ h => by cases h⟩
  | setStart state =>
    refine ⟨rfl, fun a => ?_⟩
    show (b.setStart state).2.elim Answer.done .failed ≠ .built a
    rcases (b.setStart state).2 with _ | e <;> exact fun h => by cases h
  | addTransitions source symbols target =>
    refine ⟨rfl, fun a => ?_⟩
    show (b.addTransitions source symbols target).2.elim Answer.done .failed ≠ .built a
    rcases (b.addTransitions source symbols target).2 with _ | e <;> exact fun h => by cases h

theorem answer_build (b : Builder) (name : String) :
    (b.answer (.build name)).1 = b ∧
      ∀ a, (b.answer (.build name)).2 = .built a → b.build name = .ok a := by
  rw [answer]
  rcases b.build name with e | a
  · exact ⟨rfl, fun _ h => by cases h⟩
  · exact ⟨rfl, fun _ h => by cases h; rfl⟩

theorem afterAll_eq_after : ∀ (b : Builder) (rs : List Request), b.afterAll rs = b.after (calls rs)
  | _, [] => rfl
  | b, .call c :: rs => by
    show (b.answer (.call c)).1.afterAll rs = (b.call c).1.after (calls rs)
    rw [(b.answer_call c).1, afterAll_eq_after]
  | b, .build name :: rs => by
    show (b.answer (.build name)).1.afterAll rs = b.after (calls rs)
    rw [(b.answer_build name).1, afterAll_eq_after]

theorem afterAll_append (b : Builder) (rs rs' : List Request) :
    b.afterAll (rs ++ rs') = (b.afterAll rs).afterAll rs' := List.foldl_append

theorem exists_build_of_mem_answers {a : Automaton} : ∀ {rs : List Request} {b : Builder},
    .built a ∈ b.answers rs → ∃ cs name, (b.after cs).build name = .ok a
  | .call c :: rs, b, h => by
    rcases List.mem_cons.mp h with h | h
    · exact absurd h.symm ((b.answer_call c).2 a)
    · rw [(b.answer_call c).1] at h
      obtain ⟨cs, name, hb⟩ := exists_build_of_mem_answers h
      exact ⟨c :: cs, name, hb⟩
  | .build name :: rs, b, h => by
    rcases List.mem_cons.mp h with h | h
    · exact ⟨[], name, (b.answer_build name).2 a h.symm⟩
    · rw [(b.answer_build name).1] at h
      exact exists_build_of_mem_answers h

/-! ### The table -/

/-- What a table has for the target of a transition. -/
def entryOf (target : Option Nat) : Int := target.elim (-1) Nat.cast

/-- The table of the transitions: one row for each state, one entry for each symbol. -/
def table (b : Builder) : List (List Int) :=
  b.nodes.map fun node => (List.finRange 128).map fun s => entryOf (node.next s)

/-- The entry in a given row and column, if there is one. -/
def cell? (b : Builder) (row column : Nat) : Option Int := (b.table[row]?).bind (·[column]?)

/-- The states that accept. -/
def acceptingStates (b : Builder) : List Nat :=
  (b.nodes.zipIdx.filter fun node => node.1.accepting).map Prod.snd

/-- **The form of a table**: its rows are as long as the alphabet, and its entries are `-1` or
states. The states that accept and the state to start from are states too. -/
structure TableInvariant (b : Builder) : Prop where
  length_row : ∀ row ∈ b.table, row.length = 128
  entry : ∀ row ∈ b.table, ∀ e ∈ row, e = -1 ∨ ∃ q < b.table.length, e = q
  accepting : ∀ q ∈ b.acceptingStates, q < b.table.length
  start : ∀ q ∈ b.start, q < b.table.length

theorem length_table (b : Builder) : b.table.length = b.nodes.length := List.length_map _

theorem cell?_eq_some_iff {row column : Nat} {e : Int} : b.cell? row column = some e ↔
    ∃ h : column < 128, row < b.nodes.length ∧ e = entryOf (b.target? row ⟨column, h⟩) := by
  rw [cell?, table, List.getElem?_map, Option.bind_map]
  simp only [target?]
  rcases hn : b.nodes[row]? with _ | node
  · have hrow := List.getElem?_eq_none_iff.mp hn
    simp
    omega
  · obtain ⟨hrow, -⟩ := List.getElem?_eq_some_iff.mp hn
    by_cases hc : column < 128
    · simp [hc, hrow, eq_comm]
    · simp [hc]

theorem Allocated.tableInvariant (h : b.Allocated) : b.TableInvariant where
  length_row row hrow := by
    obtain ⟨node, -, rfl⟩ := List.mem_map.mp hrow
    rw [List.length_map, List.length_finRange]
  entry row hrow e he := by
    obtain ⟨node, hnode, rfl⟩ := List.mem_map.mp hrow
    obtain ⟨s, -, rfl⟩ := List.mem_map.mp he
    obtain ⟨p, hp⟩ := List.mem_iff_getElem?.mp hnode
    rcases hs : node.next s with _ | q
    · exact Or.inl rfl
    · refine Or.inr ⟨q, ?_, rfl⟩
      rw [length_table]
      refine h.target_lt p s q ?_
      rw [target?, hp]
      exact hs
  accepting q hq := by
    obtain ⟨⟨node, i⟩, hm, rfl⟩ := List.mem_map.mp hq
    obtain ⟨-, hi, -⟩ := List.mem_zipIdx (List.mem_filter.mp hm).1
    rw [length_table]
    omega
  start q hq := by
    rw [length_table]
    exact h.start_lt q hq

/-! ### What has been written stays -/

/-- A builder has all transitions of another one. -/
def Keeps (b b' : Builder) : Prop :=
  ∀ q s q', b.target? q s = some q' → b'.target? q s = some q'

theorem Keeps.refl (b : Builder) : Keeps b b := fun _ _ _ h => h

theorem Keeps.trans {b'' : Builder} (h : Keeps b b') (h' : Keeps b' b'') : Keeps b b'' :=
  fun q s q' hq => h' q s q' (h q s q' hq)

theorem target?_setTransition_of_ne {source target q : Nat} {s s' : Symbol}
    (h : ¬ (source = q ∧ s' = s)) :
    (b.setTransition source s target).target? q s' = b.target? q s' := by
  rw [target?, setTransition, target?]
  dsimp only
  rw [List.getElem?_modify]
  rcases b.nodes[q]? with _ | node
  · rfl
  · by_cases hsource : source = q
    · have hs : s' ≠ s := fun hs => h ⟨hsource, hs⟩
      simp [hsource, Node.withTransition, hs]
    · simp [hsource]

theorem keeps_setTransition {source target : Nat} {s : Symbol} (h : b.target? source s = none) :
    Keeps b (b.setTransition source s target) := by
  intro q s' q' hq
  rw [target?_setTransition_of_ne, hq]
  rintro ⟨rfl, rfl⟩
  rw [h] at hq
  cases hq

theorem keeps_addSymbols (source target : Nat) (symbols : List String) :
    Keeps b (b.addSymbols source target symbols).1 := by
  induction symbols generalizing b with
  | nil => exact .refl b
  | cons text rest ih =>
    rw [addSymbols]
    split
    · exact .refl b
    · split
      · next hnone => exact (keeps_setTransition hnone).trans ih
      · split
        · exact ih
        · exact .refl b

/-- **Every call keeps the transitions**, also one that fails. -/
theorem keeps_call (b : Builder) : ∀ c : Call, Keeps b (b.call c).1
  | .addState accepting => fun q s q' h => by
    rw [← h]
    exact target?_addState accepting q s
  | .setStart state => by
    rw [call, setStart]
    split
    · exact .refl b
    · exact fun _ _ _ h => h
  | .addTransitions source symbols target => by
    rw [call, addTransitions]
    split
    · exact .refl b
    · split
      · exact .refl b
      · exact keeps_addSymbols _ _ symbols

theorem keeps_after (b : Builder) (cs : List Call) : Keeps b (b.after cs) := by
  induction cs generalizing b with
  | nil => exact .refl b
  | cons c cs ih => exact (b.keeps_call c).trans (ih (b.call c).1)

theorem keeps_afterAll (b : Builder) (rs : List Request) : Keeps b (b.afterAll rs) := by
  rw [afterAll_eq_after]
  exact b.keeps_after (calls rs)

theorem Keeps.cell? (h : Keeps b b') {row column : Nat} {e : Int}
    (he : b.cell? row column = some e) (hne : e ≠ -1) : b'.cell? row column = some e := by
  obtain ⟨hc, -, rfl⟩ := cell?_eq_some_iff.mp he
  rcases ht : b.target? row ⟨column, hc⟩ with _ | q
  · rw [ht] at hne
    exact absurd rfl hne
  · have hkept := h row _ q ht
    obtain ⟨node, hnode, -⟩ := Option.bind_eq_some_iff.mp hkept
    refine cell?_eq_some_iff.mpr ⟨hc, (List.getElem?_eq_some_iff.mp hnode).1, ?_⟩
    rw [hkept]

end Builder

/-! ### Scans of an automaton -/

namespace Automaton

variable {a : Automaton}

theorem stepAt_of_lt {q : Nat} (hq : q < a.stateCount) (c : Char) :
    a.stepAt q (String.singleton c) = (a.step? q c).elim .stuck .to := by
  rcases hs : a.step? q c with _ | q'
  · rcases ha : a.stepAt q (String.singleton c) with _ | _ | q'
    · exact absurd ha (stepAt_ne_noSuchState hq c)
    · rfl
    · rw [stepAt_eq_to_iff.mp ha] at hs
      cases hs
  · exact stepAt_eq_to_iff.mpr hs

/-- **A state that is there leads to a state or nowhere**, on any text as symbol. -/
theorem stepAt_cases (ht : ∀ q c q', a.step? q c = some q' → q' < a.stateCount) {state : Int}
    (h0 : 0 ≤ state) (hlt : state < a.stateCount) (text : String) :
    a.stepAt state text = .stuck ∨ ∃ q < a.stateCount, a.stepAt state text = .to q := by
  obtain ⟨p, rfl⟩ := Int.eq_ofNat_of_zero_le h0
  have hp : p < a.stateCount := Int.ofNat_lt.mp hlt
  by_cases hsymbol : ∃ c, text = String.singleton c
  · obtain ⟨c, rfl⟩ := hsymbol
    rw [stepAt_of_lt hp]
    rcases hs : a.step? p c with _ | q
    · exact Or.inl rfl
    · exact Or.inr ⟨q, ht p c q hs, rfl⟩
  · left
    have hnone : Symbol.ofString? text = none := by
      rw [Symbol.ofString?]
      split
      · next c hc => exact absurd ⟨c, String.toList_inj.mp (hc.trans (by simp))⟩ hsymbol
      · rfl
    rw [stepAt, hnone]

/-- The scan for the longest match along a text, from a state on: how many characters have been
read, and how many of them up to the last state that accepts. It fails where a state is asked for a
step and is not there. -/
def scan? (a : Automaton) : Nat → List Char → Nat → Nat → Option Nat
  | _, [], _, longest => some longest
  | q, c :: cs, length, longest =>
    match a.stepAt q (String.singleton c) with
    | .noSuchState => none
    | .stuck => some longest
    | .to q' => a.scan? q' cs (length + 1) (if a.isAccepting q' then length + 1 else longest)

/-- Whether the scan of a whole text ends where the text does. -/
def acceptsByScan? (a : Automaton) (text : List Char) : Option Bool :=
  if text = [] then some false else (a.scan? a.start text 0 0).map (· == text.length)

/-- **The scan never fails on an automaton that does not leave its states**, and finds the longest
match. -/
theorem scan?_eq (ht : ∀ q c q', a.step? q c = some q' → q' < a.stateCount) :
    ∀ {cs : List Char} {q length longest : Nat}, q < a.stateCount →
      a.scan? q cs length longest =
        some (if a.longestFrom q cs = 0 then longest else length + a.longestFrom q cs)
  | [], _, _, _, _ => rfl
  | c :: cs, q, length, longest, hq => by
    rw [scan?, stepAt_of_lt hq]
    rcases hs : a.step? q c with _ | q'
    · rw [longestFrom_cons_of_none hs, if_pos rfl]
      rfl
    · rw [longestFrom_cons_of_some hs]
      show a.scan? q' cs (length + 1) _ = _
      rw [scan?_eq ht (ht q c q' hs)]
      by_cases h0 : a.longestFrom q' cs = 0
      · by_cases ha : a.isAccepting q' = true <;> simp [h0, ha]
      · rw [if_neg h0, if_neg h0, if_neg (Nat.succ_ne_zero _)]
        congr 1
        omega

theorem scan?_start (hstart : a.start < a.stateCount)
    (ht : ∀ q c q', a.step? q c = some q' → q' < a.stateCount) (text : List Char) :
    a.scan? a.start text 0 0 = some (a.longestMatch text) := by
  rw [scan?_eq ht hstart, Nat.zero_add, longestMatch]
  split
  · next h => rw [h]
  · rfl

theorem acceptsByScan?_eq (hstart : a.start < a.stateCount)
    (ht : ∀ q c q', a.step? q c = some q' → q' < a.stateCount) (text : List Char) :
    a.acceptsByScan? text = some (a.accepts text) := by
  rw [acceptsByScan?, scan?_start hstart ht, accepts]
  by_cases h : text = []
  · rw [if_pos h, h]; rfl
  · rw [if_neg h, List.isEmpty_eq_false_iff.mpr h]; rfl

end Automaton

/-- **The table of a builder is always well-formed.** Whatever is asked of a new builder, the
requests that fail included, its rows have one entry for each symbol, and they, the states that
accept and the start name states only; a target that has been written stays. So every automaton that
is answered leads from its states to its states or nowhere, on any text as symbol, and the scans for
the longest match and for acceptance never ask for a state that is not there. -/
theorem table_of_requests (rs : List Builder.Request) :
    (Builder.afterAll {} rs).TableInvariant ∧
    (∀ rs' row column e, (Builder.afterAll {} rs).cell? row column = some e → e ≠ -1 →
      (Builder.afterAll {} (rs ++ rs')).cell? row column = some e) ∧
    ∀ a, .built a ∈ Builder.answers {} rs →
      (∀ (state : Int) text, 0 ≤ state → state < a.stateCount →
        a.stepAt state text = .stuck ∨ ∃ q < a.stateCount, a.stepAt state text = .to q) ∧
      (∀ text (start : Int), a.scan? a.start (text.drop (max start 0).toNat) 0 0 =
        some (a.longestMatchAt text start)) ∧
      ∀ text, a.acceptsByScan? text = some (a.accepts text) := by
  refine ⟨?_, fun rs' row column e he hne => ?_, fun a ha => ?_⟩
  · rw [Builder.afterAll_eq_after]
    exact (Builder.allocated_empty.after _).tableInvariant
  · rw [Builder.afterAll_append]
    exact (Builder.keeps_afterAll _ rs').cell? he hne
  · obtain ⟨cs, name, hb⟩ := Builder.exists_build_of_mem_answers ha
    obtain ⟨hstart, htarget⟩ := (Builder.allocated_empty.after cs).of_build hb
    refine ⟨fun state text h0 hlt => Automaton.stepAt_cases htarget h0 hlt text,
      fun text start => ?_, Automaton.acceptsByScan?_eq hstart htarget⟩
    rw [Automaton.toNat_max_zero, Automaton.scan?_start hstart htarget, Automaton.longestMatchAt]

/-- The calls of `alternatingCalls`, an automaton, and then a call that adds a transition and fails
at the next one. -/
def alternatingRequests : List Builder.Request :=
  alternatingCalls.map .call ++
    [.build "alternating", .call (.addTransitions 0 ["b", "a", "c"] 0), .call (.addState true)]

/-- The transitions on `a` and `b` stay as they were, and the failed call has not got to `c`. The
scan of the automaton stops at the second `b` in a row. -/
theorem table_of_alternatingRequests :
    (∀ rs, (Builder.afterAll {} (alternatingRequests ++ rs)).cell? 0 97 = some 1) ∧
    (∀ rs, (Builder.afterAll {} (alternatingRequests ++ rs)).cell? 0 98 = some 0) ∧
    (Builder.afterAll {} alternatingRequests).cell? 0 99 = some (-1) ∧
    ∃ a, .built a ∈ Builder.answers {} alternatingRequests ∧
      (a.stepAt 1 "b" = .stuck ∨ ∃ q < a.stateCount, a.stepAt 1 "b" = .to q) ∧
      a.scan? a.start ['a', 'b', 'a', 'b', 'b', 'x'] 0 0 = some 3 ∧
      a.acceptsByScan? ['a', 'b', 'a'] = some true := by
  obtain ⟨-, hkept, hbuilt⟩ := table_of_requests alternatingRequests
  have hmem : .built ⟨"alternating", (Builder.after {} alternatingCalls).nodes, 0⟩ ∈
      Builder.answers {} alternatingRequests := List.mem_iff_getElem?.mpr ⟨6, rfl⟩
  obtain ⟨hstep, hscan, haccepts⟩ := hbuilt _ hmem
  exact ⟨fun rs => hkept rs 0 97 1 rfl (by decide), fun rs => hkept rs 0 98 0 rfl (by decide), rfl,
    _, hmem, hstep 1 "b" (by decide) (by decide), hscan ['a', 'b', 'a', 'b', 'b', 'x'] 0,
    haccepts ['a', 'b', 'a']⟩

end BlockLang
