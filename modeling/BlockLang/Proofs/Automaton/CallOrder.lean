import BlockLang.Proofs.Automaton.Table
import BlockLang.Proofs.Automaton.TokenClass

/-! # The order of the calls

A builder has its states, and is then asked for bundles of transitions, one call after the other.
Whether the calls go through, and what they build, depends on the transitions that are asked for and
not on the order of the calls.

* `Builder.Bundle`: what one call asks for, transitions from one state to another on some symbols.
  `Builder.Asks` are the transitions of some bundles, as triples.
* `Builder.HasTransition`: the triples that a builder has. A call goes through iff its states and
  symbols are there and none of its transitions is there with another target
  (`Builder.call_eq_none_iff`), and then it adds its triples to those of the builder
  (`Builder.hasTransition_call`).
* `Builder.GoesThrough`: no call for some bundles fails. That is so iff the triples of the builder
  and of all bundles together lead from a state on a symbol to one state only
  (`Builder.goesThrough_iff`).

Neither the triples of all bundles nor that condition depend on the order (`built_of_perm`, for a
builder of some states, `Builder.ofStates`). -/

namespace BlockLang

/-! ### Symbols as texts -/

namespace Symbol

theorem toNat_toChar (s : Symbol) : s.toChar.toNat = s.val := by
  have hvalid : s.val.isValidChar := Or.inl (by omega)
  rw [toChar, Char.ofNat, dif_pos hvalid]
  rfl

theorem ofString?_eq_some_iff {text : String} {s : Symbol} :
    ofString? text = some s ↔ text = String.singleton s.toChar := by
  constructor
  · intro h
    rw [ofString?] at h
    split at h
    · next c hc =>
      have hval := Automaton.val_of_ofChar? h
      have hchar : c = s.toChar := Char.toNat_inj.mp (by rw [toNat_toChar, hval])
      rw [← String.toList_inj, hc, String.toList_singleton, hchar]
    · cases h
  · rintro rfl
    rw [Automaton.ofString?_singleton, ofChar?, dif_pos (by rw [toNat_toChar]; exact s.isLt)]
    simp only [toNat_toChar]

/-- **The texts that are symbols** are the single ASCII characters. -/
theorem exists_ofString?_iff {text : String} :
    (∃ s, ofString? text = some s) ↔ ∃ c : Char, text = String.singleton c ∧ c.toNat < 128 := by
  constructor
  · rintro ⟨s, hs⟩
    exact ⟨s.toChar, ofString?_eq_some_iff.mp hs, by rw [toNat_toChar]; exact s.isLt⟩
  · rintro ⟨c, rfl, hc⟩
    exact ⟨⟨c.toNat, hc⟩, by rw [Automaton.ofString?_singleton, ofChar?, dif_pos hc]⟩

end Symbol

namespace Builder

variable {b b' : Builder}

/-! ### Bundles -/

/-- What one call asks for: transitions from one state to another, one for each symbol. -/
structure Bundle where
  source : Int
  symbols : List String
  target : Int
  deriving DecidableEq, Repr

namespace Bundle

/-- The call for a bundle. -/
def toCall (e : Bundle) : Call := .addTransitions e.source e.symbols e.target

/-- A bundle has a transition, told as a triple of a source, a symbol and a target. -/
def Has (e : Bundle) (source : Int) (text : String) (target : Int) : Prop :=
  e.source = source ∧ text ∈ e.symbols ∧ e.target = target

/-- **A bundle is made of what is there**: both states are among the first `n`, and every symbol is a
single ASCII character. -/
structure Proper (n : Nat) (e : Bundle) : Prop where
  source : 0 ≤ e.source ∧ e.source < n
  target : 0 ≤ e.target ∧ e.target < n
  symbols : ∀ text ∈ e.symbols, ∃ c : Char, text = String.singleton c ∧ c.toNat < 128

end Bundle

/-- **The transitions that some bundles ask for.** -/
def Asks (es : List Bundle) (source : Int) (text : String) (target : Int) : Prop :=
  ∃ e ∈ es, e.Has source text target

/-- A state and a symbol have one target at most. -/
def Functional (R : Int → String → Int → Prop) : Prop :=
  ∀ source text target target', R source text target → R source text target' → target = target'

/-- The requests for some bundles, in order. -/
def requests (es : List Bundle) : List Request := es.map fun e => .call e.toCall

/-- No request for some bundles fails. -/
def GoesThrough (b : Builder) (es : List Bundle) : Prop := ∀ e, .failed e ∉ b.answers (requests es)

/-! ### The transitions that a builder has -/

/-- A builder has a transition, told as a triple. -/
def HasTransition (b : Builder) (source : Int) (text : String) (target : Int) : Prop :=
  ∃ (p : Nat) (s : Symbol) (q : Nat), source = p ∧ Symbol.ofString? text = some s ∧ target = q ∧
    b.target? p s = some q

/-- Two builders have the same states: as many of them, the same ones accepting, and the same start. -/
structure SameStates (b b' : Builder) : Prop where
  accepting : b.nodes.map Node.accepting = b'.nodes.map Node.accepting
  start : b.start = b'.start

theorem SameStates.refl (b : Builder) : SameStates b b := ⟨rfl, rfl⟩

theorem SameStates.symm (h : SameStates b b') : SameStates b' b := ⟨h.accepting.symm, h.start.symm⟩

theorem SameStates.trans {b'' : Builder} (h : SameStates b b') (h' : SameStates b' b'') :
    SameStates b b'' := ⟨h.accepting.trans h'.accepting, h.start.trans h'.start⟩

theorem SameStates.length_eq (h : SameStates b b') : b.nodes.length = b'.nodes.length := by
  rw [← List.length_map Node.accepting, h.accepting, List.length_map]

theorem functional_hasTransition (b : Builder) : Functional b.HasTransition := by
  rintro source text target target' ⟨p, s, q, rfl, hs, rfl, hq⟩ ⟨p', s', q', hp', hs', rfl, hq'⟩
  obtain rfl := Int.ofNat_inj.mp hp'
  rw [hs] at hs'
  obtain rfl := Option.some.inj hs'
  rw [hq] at hq'
  rw [Option.some.inj hq']

theorem target?_eq_some_iff {p q : Nat} {s : Symbol} :
    b.target? p s = some q ↔ b.HasTransition p (String.singleton s.toChar) q := by
  constructor
  · intro h
    exact ⟨p, s, q, rfl, Symbol.ofString?_eq_some_iff.mpr rfl, rfl, h⟩
  · rintro ⟨p', s', q', hp, hs, hq, h⟩
    rw [Symbol.ofString?_eq_some_iff.mpr rfl] at hs
    obtain rfl := Int.ofNat_inj.mp hp
    obtain rfl := Option.some.inj hs
    obtain rfl := Int.ofNat_inj.mp hq
    exact h

/-- **The states and the triples make the builder.** -/
theorem eq_of_hasTransition (h : SameStates b b') (ht : ∀ source text target,
    b.HasTransition source text target ↔ b'.HasTransition source text target) : b = b' := by
  have htarget : ∀ p s, b.target? p s = b'.target? p s := fun p s => Option.ext fun q => by
    rw [target?_eq_some_iff, target?_eq_some_iff, ht]
  have hlength := h.length_eq
  obtain ⟨nodes, start⟩ := b
  obtain ⟨nodes', start'⟩ := b'
  obtain rfl : start = start' := h.start
  have hnodes : nodes = nodes' := by
    refine List.ext_getElem hlength fun p hp hp' => ?_
    have haccepting : (nodes.map Node.accepting)[p]? = (nodes'.map Node.accepting)[p]? := by
      rw [h.accepting]
    have hnext : ∀ s, nodes[p].next s = nodes'[p].next s := by
      intro s
      have hps := htarget p s
      rwa [target?, target?, List.getElem?_eq_getElem hp, List.getElem?_eq_getElem hp'] at hps
    rw [List.getElem?_map, List.getElem?_map, List.getElem?_eq_getElem hp,
      List.getElem?_eq_getElem hp'] at haccepting
    exact congrArg₂ Node.mk (Option.some.inj haccepting) (funext hnext)
  rw [hnodes]

/-! ### One call -/

theorem state?_eq_some_iff {i : Int} {p : Nat} :
    b.state? i = some p ↔ i = p ∧ p < b.nodes.length := by
  rw [state?]
  split
  · next hi =>
    rw [Option.some.injEq]
    omega
  · next hi => exact iff_of_false (fun h => by cases h) fun h => hi (by omega)

theorem state?_eq_none_iff {i : Int} :
    b.state? i = none ↔ ¬ (0 ≤ i ∧ i < b.nodes.length) := by
  rw [state?]
  split <;> simp_all

theorem target?_setTransition_iff {p q p' q' : Nat} {s s' : Symbol} (hp : p < b.nodes.length)
    (hnone : b.target? p s = none) : (b.setTransition p s q).target? p' s' = some q' ↔
      b.target? p' s' = some q' ∨ (p' = p ∧ s' = s ∧ q' = q) := by
  by_cases hps : p = p' ∧ s' = s
  · obtain ⟨rfl, rfl⟩ := hps
    have hself : (b.setTransition p s' q).target? p s' = some q := by
      rw [target?, setTransition]
      dsimp only
      rw [List.getElem?_modify, List.getElem?_eq_getElem hp]
      simp [Node.withTransition]
    rw [hself, hnone, Option.some.injEq]
    simp [eq_comm]
  · rw [target?_setTransition_of_ne hps]
    exact (or_iff_left fun h => hps ⟨h.1.symm, h.2.1⟩).symm

theorem sameStates_setTransition (b : Builder) (p : Nat) (s : Symbol) (q : Nat) :
    SameStates b (b.setTransition p s q) := by
  refine ⟨List.ext_getElem? fun i => ?_, rfl⟩
  rw [setTransition, List.getElem?_map, List.getElem?_map, List.getElem?_modify]
  rcases b.nodes[i]? with _ | node
  · rfl
  · by_cases hp : p = i <;> simp [hp, Node.withTransition]

theorem sameStates_addSymbols (p q : Nat) (texts : List String) :
    SameStates b (b.addSymbols p q texts).1 := by
  induction texts generalizing b with
  | nil => exact .refl b
  | cons text rest ih =>
    rw [addSymbols]
    split
    · exact .refl b
    · next s _ =>
      split
      · exact (b.sameStates_setTransition p s q).trans ih
      · split
        · exact ih
        · exact .refl b

/-- A text fits as the symbol of a transition: it is a symbol, and leads nowhere else. -/
def Fits (b : Builder) (p q : Nat) (text : String) : Prop :=
  ∃ s, Symbol.ofString? text = some s ∧ ∀ q' ∈ b.target? p s, q' = q

/-- **What is at fault with a text as the symbol of a transition**: it is not a single ASCII
character, or there is a transition on it to another target. -/
inductive SymbolFault (b : Builder) (p q : Nat) (text : String) : BuildError → Prop
  | foreign : (¬ ∃ c : Char, text = String.singleton c ∧ c.toNat < 128) →
      SymbolFault b p q text (.foreignSymbol text)
  | conflict {existing : Nat} : b.HasTransition p text existing → existing ≠ q →
      SymbolFault b p q text (.conflict text p existing q)

/-- **Symbols that are taken**: all of them fit, and their transitions are added to the others. -/
structure Takes (b : Builder) (p q : Nat) (taken : List String) (b' : Builder) : Prop where
  fits : ∀ text ∈ taken, b.Fits p q text
  target?_eq_some_iff : ∀ {p' s' q'}, b'.target? p' s' = some q' ↔ b.target? p' s' = some q' ∨
    (p' = p ∧ (∃ text ∈ taken, Symbol.ofString? text = some s') ∧ q' = q)

theorem Fits.not_symbolFault {p q : Nat} {text : String} (h : b.Fits p q text) (e : BuildError) :
    ¬ b.SymbolFault p q text e := by
  obtain ⟨s, hs, hto⟩ := h
  rintro (hforeign | ⟨⟨p', s', q', hp, hs', hq, ht⟩, hne⟩)
  · exact hforeign (Symbol.exists_ofString?_iff.mp ⟨s, hs⟩)
  · obtain rfl := Int.ofNat_inj.mp hp
    obtain rfl := Int.ofNat_inj.mp hq
    rw [hs] at hs'
    obtain rfl := Option.some.inj hs'
    exact hne (hto _ ht)

theorem Takes.nil (b : Builder) (p q : Nat) : Takes b p q [] b where
  fits _ h := absurd h List.not_mem_nil
  target?_eq_some_iff := by simp

theorem Takes.cons_of_existing {p q : Nat} {text : String} {s : Symbol} {taken : List String}
    (hs : Symbol.ofString? text = some s) (ht : b.target? p s = some q) (h : Takes b p q taken b') :
    Takes b p q (text :: taken) b' where
  fits := by
    refine List.forall_mem_cons.mpr ⟨⟨s, hs, fun q' hq' => ?_⟩, h.fits⟩
    rw [ht] at hq'
    exact (Option.some.inj hq').symm
  target?_eq_some_iff := by
    intro p' s' q'
    rw [h.target?_eq_some_iff]
    simp only [List.mem_cons, exists_eq_or_imp, hs, Option.some.injEq]
    grind

theorem Takes.cons_of_none {p q : Nat} {text : String} {s : Symbol} {taken : List String}
    (hp : p < b.nodes.length) (hs : Symbol.ofString? text = some s) (ht : b.target? p s = none)
    (h : Takes (b.setTransition p s q) p q taken b') : Takes b p q (text :: taken) b' where
  fits := by
    refine List.forall_mem_cons.mpr ⟨⟨s, hs, fun q' hq' => ?_⟩, fun text' hm => ?_⟩
    · rw [ht] at hq'
      cases hq'
    · -- what fits beside the new transition fits without it
      obtain ⟨s', hs', hto⟩ := h.fits text' hm
      exact ⟨s', hs', fun q' hq' => hto q' ((target?_setTransition_iff hp ht).mpr (Or.inl hq'))⟩
  target?_eq_some_iff := by
    intro p' s' q'
    rw [h.target?_eq_some_iff, target?_setTransition_iff hp ht]
    simp only [List.mem_cons, exists_eq_or_imp, hs, Option.some.injEq]
    grind

/-- What is at fault beside a new transition to the target is at fault without it. -/
theorem SymbolFault.of_setTransition {p q : Nat} {s : Symbol} {text : String} {e : BuildError}
    (hp : p < b.nodes.length) (ht : b.target? p s = none)
    (h : (b.setTransition p s q).SymbolFault p q text e) : b.SymbolFault p q text e := by
  rcases h with hforeign | ⟨⟨p', s', q', hp', hs', hq', ht'⟩, hne⟩
  · exact .foreign hforeign
  · obtain rfl := Int.ofNat_inj.mp hp'
    obtain rfl := Int.ofNat_inj.mp hq'
    rcases (target?_setTransition_iff hp ht).mp ht' with ht' | ⟨-, -, heq⟩
    · exact .conflict ⟨_, s', _, rfl, hs', rfl, ht'⟩ hne
    · exact absurd heq hne

/-- **Symbols are added up to the first that is at fault**: all of them are taken, or those before
it are, and it is told. -/
theorem addSymbols_cases {p q : Nat} (hp : p < b.nodes.length) (texts : List String) :
    ((b.addSymbols p q texts).2 = none ∧ Takes b p q texts (b.addSymbols p q texts).1) ∨
    ∃ taken text rest e, texts = taken ++ text :: rest ∧ b.SymbolFault p q text e ∧
      (b.addSymbols p q texts).2 = some e ∧ Takes b p q taken (b.addSymbols p q texts).1 := by
  induction texts generalizing b with
  | nil => exact Or.inl ⟨rfl, .nil b p q⟩
  | cons text rest ih =>
    rw [addSymbols]
    rcases hs : Symbol.ofString? text with _ | s
    · right
      refine ⟨[], text, rest, _, rfl, .foreign fun hc => ?_, rfl, .nil b p q⟩
      obtain ⟨s, hs'⟩ := Symbol.exists_ofString?_iff.mpr hc
      rw [hs] at hs'
      cases hs'
    dsimp only
    rcases ht : b.target? p s with _ | existing
    · have hp' : p < (b.setTransition p s q).nodes.length := by
        rw [length_setTransition]; exact hp
      rcases ih hp' with ⟨hnone, htakes⟩ | ⟨taken, text', rest', e, rfl, hfault, he, htakes⟩
      · exact Or.inl ⟨hnone, htakes.cons_of_none hp hs ht⟩
      · exact Or.inr ⟨text :: taken, text', rest', e, rfl, hfault.of_setTransition hp ht, he,
          htakes.cons_of_none hp hs ht⟩
    · dsimp only
      by_cases heq : existing = q
      · subst heq
        rw [if_pos rfl]
        rcases ih hp with ⟨hnone, htakes⟩ | ⟨taken, text', rest', e, rfl, hfault, he, htakes⟩
        · exact Or.inl ⟨hnone, htakes.cons_of_existing hs ht⟩
        · exact Or.inr ⟨text :: taken, text', rest', e, rfl, hfault, he,
            htakes.cons_of_existing hs ht⟩
      · rw [if_neg heq]
        exact Or.inr ⟨[], text, rest, _, rfl, .conflict ⟨p, s, existing, rfl, hs, rfl, ht⟩ heq, rfl,
          .nil b p q⟩

/-- **Symbols can be added** iff they are symbols and lead nowhere else. -/
theorem addSymbols_eq_none_iff {p q : Nat} (hp : p < b.nodes.length) {texts : List String} :
    (b.addSymbols p q texts).2 = none ↔ ∀ text ∈ texts, b.Fits p q text := by
  rcases b.addSymbols_cases hp texts with ⟨hnone, htakes⟩ | ⟨taken, text, rest, e, rfl, hfault, he, -⟩
  · exact iff_of_true hnone htakes.fits
  · refine iff_of_false (fun h => by rw [he] at h; cases h) fun h => ?_
    exact (h text (by simp)).not_symbolFault e hfault

/-- **Symbols that can be added are added to the others.** -/
theorem target?_addSymbols_iff {p q p' q' : Nat} {s' : Symbol} (hp : p < b.nodes.length)
    {texts : List String} (h : (b.addSymbols p q texts).2 = none) :
    (b.addSymbols p q texts).1.target? p' s' = some q' ↔ b.target? p' s' = some q' ∨
      (p' = p ∧ (∃ text ∈ texts, Symbol.ofString? text = some s') ∧ q' = q) := by
  rcases b.addSymbols_cases hp texts with ⟨-, htakes⟩ | ⟨-, -, -, e, -, -, he, -⟩
  · exact htakes.target?_eq_some_iff
  · rw [he] at h
    cases h

/-! ### One bundle -/

/-- **A call goes through** iff the bundle is made of what is there, and none of its transitions is
there with another target. -/
theorem call_eq_none_iff (b : Builder) (e : Bundle) :
    (b.call e.toCall).2 = none ↔ e.Proper b.nodes.length ∧
      ∀ text target, e.Has e.source text e.target → b.HasTransition e.source text target →
        target = e.target := by
  show (b.addTransitions e.source e.symbols e.target).2 = none ↔ _
  rw [addTransitions]
  rcases hp : b.state? e.source with _ | p
  · exact iff_of_false (fun h => by cases h) fun h => state?_eq_none_iff.mp hp h.1.source
  rcases hq : b.state? e.target with _ | q
  · exact iff_of_false (fun h => by cases h) fun h => state?_eq_none_iff.mp hq h.1.target
  obtain ⟨hsource, hlt⟩ := state?_eq_some_iff.mp hp
  obtain ⟨htarget, hlt'⟩ := state?_eq_some_iff.mp hq
  dsimp only
  rw [addSymbols_eq_none_iff hlt]
  constructor
  · intro h
    refine ⟨⟨by omega, by omega, fun text hm => ?_⟩, fun text target hm ht => ?_⟩
    · obtain ⟨s, hs, -⟩ := h text hm
      exact Symbol.exists_ofString?_iff.mp ⟨s, hs⟩
    · obtain ⟨s, hs, hto⟩ := h text hm.2.1
      obtain ⟨p', s', q', hp', hs', rfl, ht'⟩ := ht
      obtain rfl := Int.ofNat_inj.mp (hsource.symm.trans hp')
      rw [hs] at hs'
      obtain rfl := Option.some.inj hs'
      rw [hto q' ht', htarget]
  · rintro ⟨hproper, hto⟩ text hm
    obtain ⟨s, hs⟩ := Symbol.exists_ofString?_iff.mpr (hproper.symbols text hm)
    refine ⟨s, hs, fun q' ht => ?_⟩
    have heq := hto text q' ⟨rfl, hm, rfl⟩ ⟨p, s, q', hsource, hs, rfl, ht⟩
    exact Int.ofNat_inj.mp (heq.trans htarget)

/-- **A call that goes through adds the transitions of its bundle.** -/
theorem hasTransition_call {e : Bundle} (h : (b.call e.toCall).2 = none) {source target : Int}
    {text : String} : (b.call e.toCall).1.HasTransition source text target ↔
      b.HasTransition source text target ∨ e.Has source text target := by
  have hproper := ((b.call_eq_none_iff e).mp h).1
  obtain ⟨p, hsource⟩ := Int.eq_ofNat_of_zero_le hproper.source.1
  obtain ⟨q, htarget⟩ := Int.eq_ofNat_of_zero_le hproper.target.1
  have hlt : p < b.nodes.length := by have := hproper.source.2; omega
  have hlt' : q < b.nodes.length := by have := hproper.target.2; omega
  have hcall : b.call e.toCall = b.addSymbols p q e.symbols := by
    show b.addTransitions e.source e.symbols e.target = _
    rw [addTransitions, state?_eq_some_iff.mpr ⟨hsource, hlt⟩, state?_eq_some_iff.mpr ⟨htarget, hlt'⟩]
  rw [hcall] at h ⊢
  constructor
  · rintro ⟨p', s, q', rfl, hs, rfl, ht⟩
    rcases (target?_addSymbols_iff hlt h).mp ht with ht | ⟨rfl, ⟨text', hm, hs'⟩, rfl⟩
    · exact Or.inl ⟨p', s, q', rfl, hs, rfl, ht⟩
    · rw [Symbol.ofString?_eq_some_iff] at hs hs'
      exact Or.inr ⟨hsource, hs ▸ hs' ▸ hm, htarget⟩
  · rintro (⟨p', s, q', rfl, hs, rfl, ht⟩ | ⟨rfl, hm, rfl⟩)
    · exact ⟨p', s, q', rfl, hs, rfl, (target?_addSymbols_iff hlt h).mpr (Or.inl ht)⟩
    · obtain ⟨s, hs⟩ := Symbol.exists_ofString?_iff.mpr (hproper.symbols text hm)
      exact ⟨p, s, q, hsource, hs, htarget,
        (target?_addSymbols_iff hlt h).mpr (Or.inr ⟨rfl, ⟨text, hm, hs⟩, rfl⟩)⟩

theorem sameStates_call (b : Builder) (e : Bundle) : SameStates b (b.call e.toCall).1 := by
  show SameStates b (b.addTransitions e.source e.symbols e.target).1
  rw [addTransitions]
  split
  · exact .refl b
  · split
    · exact .refl b
    · exact sameStates_addSymbols _ _ _

/-! ### All bundles -/

theorem asks_cons {e : Bundle} {es : List Bundle} {source target : Int} {text : String} :
    Asks (e :: es) source text target ↔ e.Has source text target ∨ Asks es source text target := by
  simp only [Asks, List.mem_cons, exists_eq_or_imp]

theorem goesThrough_cons {e : Bundle} {es : List Bundle} : GoesThrough b (e :: es) ↔
    (b.call e.toCall).2 = none ∧ GoesThrough (b.call e.toCall).1 es := by
  have hanswers : b.answers (requests (e :: es)) =
      (b.call e.toCall).2.elim .done .failed :: (b.call e.toCall).1.answers (requests es) := rfl
  rw [GoesThrough, GoesThrough, hanswers]
  rcases (b.call e.toCall).2 with _ | error
  · simp
  · exact iff_of_false (fun h => h error List.mem_cons_self) fun h => by cases h.1

theorem afterAll_requests_cons (b : Builder) (e : Bundle) (es : List Bundle) :
    b.afterAll (requests (e :: es)) = (b.call e.toCall).1.afterAll (requests es) := rfl

theorem sameStates_afterAll (es : List Bundle) : SameStates b (b.afterAll (requests es)) := by
  induction es generalizing b with
  | nil => exact .refl b
  | cons e es ih =>
    rw [afterAll_requests_cons]
    exact (b.sameStates_call e).trans ih

/-- **All calls that go through add the transitions of their bundles.** -/
theorem hasTransition_afterAll {es : List Bundle} (h : GoesThrough b es) {source target : Int}
    {text : String} : (b.afterAll (requests es)).HasTransition source text target ↔
      b.HasTransition source text target ∨ Asks es source text target := by
  induction es generalizing b with
  | nil => exact (or_iff_left fun ⟨_, hm, _⟩ => List.not_mem_nil hm).symm
  | cons e es ih =>
    obtain ⟨hcall, hrest⟩ := goesThrough_cons.mp h
    rw [afterAll_requests_cons, ih hrest, hasTransition_call hcall, asks_cons, or_assoc]

/-- **Calls go through** iff their bundles are made of what is there, and the transitions of the
builder and of the bundles together lead from a state on a symbol to one state only. -/
theorem goesThrough_iff {es : List Bundle} : GoesThrough b es ↔
    (∀ e ∈ es, e.Proper b.nodes.length) ∧ Functional fun source text target =>
      b.HasTransition source text target ∨ Asks es source text target := by
  induction es generalizing b with
  | nil =>
    refine iff_of_true (fun _ h => List.not_mem_nil h)
      ⟨fun _ h => absurd h List.not_mem_nil, ?_⟩
    rintro source text target target' (h | ⟨_, hm, -⟩) (h' | ⟨_, hm', -⟩)
    · exact b.functional_hasTransition _ _ _ _ h h'
    · exact absurd hm' List.not_mem_nil
    · exact absurd hm List.not_mem_nil
    · exact absurd hm List.not_mem_nil
  | cons e es ih =>
    have hlength := (b.sameStates_call e).length_eq
    -- once the first call goes through, its transitions count among those of the builder
    have hunion : (b.call e.toCall).2 = none → ∀ source text target,
        ((b.call e.toCall).1.HasTransition source text target ∨ Asks es source text target ↔
          b.HasTransition source text target ∨ Asks (e :: es) source text target) := by
      intro hcall source text target
      rw [hasTransition_call hcall, asks_cons, or_assoc]
    rw [goesThrough_cons, ih, ← hlength, List.forall_mem_cons]
    constructor
    · rintro ⟨hcall, hproper, hfun⟩
      refine ⟨⟨((b.call_eq_none_iff e).mp hcall).1, hproper⟩, fun p x q q' h h' => ?_⟩
      exact hfun p x q q' ((hunion hcall _ _ _).mpr h) ((hunion hcall _ _ _).mpr h')
    · rintro ⟨⟨hfirst, hproper⟩, hfun⟩
      have hcall : (b.call e.toCall).2 = none := by
        refine (b.call_eq_none_iff e).mpr ⟨hfirst, fun text target he ht => ?_⟩
        exact hfun _ _ _ _ (Or.inl ht) (Or.inr (asks_cons.mpr (Or.inl he)))
      refine ⟨hcall, hproper, fun p x q q' h h' => ?_⟩
      exact hfun p x q q' ((hunion hcall _ _ _).mp h) ((hunion hcall _ _ _).mp h')

/-! ### Any order -/

theorem asks_of_perm {es es' : List Bundle} (h : es.Perm es') {source target : Int}
    {text : String} : Asks es source text target ↔ Asks es' source text target :=
  exists_congr fun _ => and_congr_left fun _ => h.mem_iff

theorem goesThrough_of_perm {es es' : List Bundle} (h : es.Perm es') :
    GoesThrough b es ↔ GoesThrough b es' := by
  rw [goesThrough_iff, goesThrough_iff]
  refine and_congr (forall_congr' fun e => imp_congr_left h.mem_iff) ?_
  simp only [Functional, asks_of_perm h]

/-- **Calls that go through make the same builder in any order.** -/
theorem afterAll_of_perm {es es' : List Bundle} (h : es.Perm es') (hes : GoesThrough b es) :
    b.afterAll (requests es) = b.afterAll (requests es') := by
  have hes' := (goesThrough_of_perm h).mp hes
  refine eq_of_hasTransition ((sameStates_afterAll es).symm.trans (sameStates_afterAll es'))
    fun source text target => ?_
  rw [hasTransition_afterAll hes, hasTransition_afterAll hes', asks_of_perm h]

/-! ### Builders without transitions -/

/-- The calls for some states, told by whether they accept, and the start among them. -/
def stateCalls (accepting : List Bool) (start : Nat) : List Call :=
  accepting.map .addState ++ [.setStart start]

theorem nodes_after_addState (accepting : List Bool) : ∀ b : Builder,
    b.after (accepting.map .addState) =
      { b with nodes := b.nodes ++ accepting.map fun a => ⟨a, fun _ => none⟩ } := by
  induction accepting with
  | nil => exact fun b => by rw [List.map_nil, List.map_nil, List.append_nil]; rfl
  | cons a accepting ih =>
    intro b
    show (b.addState a).after (accepting.map .addState) = _
    rw [ih, List.map_cons, addState, List.append_assoc, List.singleton_append]

/-- The builder of some states: it has no transitions yet. -/
def ofStates (accepting : List Bool) (start : Fin accepting.length) : Builder :=
  after {} (stateCalls accepting start)

theorem ofStates_eq (accepting : List Bool) (start : Fin accepting.length) :
    ofStates accepting start = ⟨accepting.map fun a => ⟨a, fun _ => none⟩, some start.val⟩ := by
  have happend : ofStates accepting start =
      ((after {} (accepting.map .addState)).setStart start).1 := List.foldl_append
  rw [happend, nodes_after_addState, setStart, state?_eq_some_iff.mpr ⟨rfl, ?_⟩]
  · rfl
  · simp

theorem not_hasTransition_of_next_eq_none (hb : ∀ node ∈ b.nodes, ∀ s, node.next s = none)
    {source target : Int} {text : String} : ¬ b.HasTransition source text target := by
  rintro ⟨p, s, q, -, -, -, ht⟩
  obtain ⟨node, hnode, hs⟩ := Option.bind_eq_some_iff.mp ht
  rw [hb node (List.mem_of_getElem? hnode) s] at hs
  cases hs

end Builder

namespace Automaton

theorem hasTransition_iff_stepAt {b : Builder} {name : String} {start : Nat} {source target : Int}
    {text : String} : b.HasTransition source text target ↔ 0 ≤ source ∧
      ∃ q : Nat, target = q ∧ Automaton.stepAt ⟨name, b.nodes, start⟩ source text = .to q := by
  constructor
  · rintro ⟨p, s, q, rfl, hs, rfl, ht⟩
    refine ⟨Int.natCast_nonneg p, q, rfl, ?_⟩
    obtain ⟨node, hnode, hnext⟩ := Option.bind_eq_some_iff.mp ht
    rw [stepAt, hs, nodeAt?_natCast, hnode]
    dsimp only
    rw [hnext]
    rfl
  · rintro ⟨h0, q, rfl, hstep⟩
    obtain ⟨p, rfl⟩ := Int.eq_ofNat_of_zero_le h0
    rw [stepAt] at hstep
    rcases hs : Symbol.ofString? text with _ | s
    · rw [hs] at hstep
      cases hstep
    · rw [hs, nodeAt?_natCast] at hstep
      dsimp only at hstep
      rcases hnode : b.nodes[p]? with _ | node
      · rw [hnode] at hstep
        cases hstep
      · rw [hnode] at hstep
        dsimp only at hstep
        rcases hnext : node.next s with _ | q'
        · rw [hnext] at hstep
          cases hstep
        · rw [hnext] at hstep
          obtain rfl := StepAnswer.to.inj hstep
          exact ⟨p, s, q', rfl, hs, rfl, Option.bind_eq_some_iff.mpr ⟨node, hnode, hnext⟩⟩

end Automaton

/-- **The order of the calls does not matter.** A builder has some states, and is asked for bundles
of transitions in one order and in another. Either all calls go through in both orders, or at least
one fails in both. They go through iff the bundles are made of what is there and ask for one target
from each state on each symbol. Then both orders build the same automaton, and its steps are exactly
the transitions that are asked for. -/
theorem built_of_perm (accepting : List Bool) (start : Fin accepting.length)
    {es es' : List Builder.Bundle} (h : es.Perm es') (name : String) :
    ((Builder.ofStates accepting start).GoesThrough es ↔
      (Builder.ofStates accepting start).GoesThrough es') ∧
    ((Builder.ofStates accepting start).GoesThrough es ↔
      (∀ e ∈ es, e.Proper accepting.length) ∧ Builder.Functional (Builder.Asks es)) ∧
    ((Builder.ofStates accepting start).GoesThrough es → ∃ a,
      ((Builder.ofStates accepting start).afterAll (Builder.requests es)).build name = .ok a ∧
      ((Builder.ofStates accepting start).afterAll (Builder.requests es')).build name = .ok a ∧
      ∀ (source : Int) text (target : Int), Builder.Asks es source text target ↔
        0 ≤ source ∧ ∃ q : Nat, target = q ∧ a.stepAt source text = .to q) := by
  have hstates := Builder.ofStates_eq accepting start
  have hlength : (Builder.ofStates accepting start).nodes.length = accepting.length := by
    rw [hstates, List.length_map]
  have hnone : ∀ source text target,
      ¬ (Builder.ofStates accepting start).HasTransition source text target := by
    intro source text target
    refine Builder.not_hasTransition_of_next_eq_none fun node hnode s => ?_
    rw [hstates] at hnode
    obtain ⟨a, -, rfl⟩ := List.mem_map.mp hnode
    rfl
  refine ⟨Builder.goesThrough_of_perm h, ?_, fun hes => ?_⟩
  · rw [Builder.goesThrough_iff, hlength]
    simp only [hnone, false_or]
  · have hstart : ((Builder.ofStates accepting start).afterAll (Builder.requests es)).start =
        some start.val := by
      rw [← (Builder.sameStates_afterAll es).start, hstates]
    rw [← Builder.afterAll_of_perm h hes, Builder.build, hstart]
    refine ⟨_, rfl, rfl, fun source text target => ?_⟩
    rw [← Automaton.hasTransition_iff_stepAt, Builder.hasTransition_afterAll hes,
      or_iff_right (hnone _ _ _)]

/-- Bundles that share transitions, one of them with a symbol twice. -/
def sharedBundles : List Builder.Bundle :=
  [⟨0, ["a", "b", "a"], 1⟩, ⟨1, ["b"], 0⟩, ⟨0, ["\n", "b"], 1⟩]

/-- Two states, the second of which accepts. -/
def twoStates : Builder := .ofStates [false, true] ⟨0, by decide⟩

/-- Asked for from the last to the first, they build the same automaton. With one more bundle that
leads elsewhere on a shared symbol, a call fails. -/
theorem built_of_perm_of_shared :
    sharedBundles.Perm sharedBundles.reverse ∧
    (∃ a, (twoStates.afterAll (Builder.requests sharedBundles.reverse)).build "shared" = .ok a ∧
      a.stepAt 0 "b" = .to 1) ∧
    ¬ twoStates.GoesThrough (sharedBundles ++ [⟨0, ["b"], 0⟩]) := by
  have hperm : sharedBundles.Perm sharedBundles.reverse := (List.reverse_perm _).symm
  refine ⟨hperm, ?_, ?_⟩
  · obtain ⟨-, -, hbuilt⟩ := built_of_perm [false, true] ⟨0, by decide⟩ hperm "shared"
    have hanswers : twoStates.answers (Builder.requests sharedBundles) = [.done, .done, .done] :=
      rfl
    have hgoes : twoStates.GoesThrough sharedBundles := by
      intro e
      rw [hanswers]
      simp
    obtain ⟨a, -, hbuild, hsteps⟩ := hbuilt hgoes
    obtain ⟨-, q, hq, hstep⟩ := (hsteps 0 "b" 1).mp ⟨_, .head _, rfl, by decide, rfl⟩
    obtain rfl : q = 1 := by omega
    exact ⟨a, hbuild, hstep⟩
  · obtain ⟨-, hiff, -⟩ :=
      built_of_perm [false, true] ⟨0, by decide⟩ (.refl (sharedBundles ++ [⟨0, ["b"], 0⟩])) "shared"
    intro hgoes
    have hsame := (hiff.mp hgoes).2 0 "b" 1 0
      ⟨_, List.mem_append_left _ (.head _), rfl, by decide, rfl⟩
      ⟨_, List.mem_append_right _ (.head _), rfl, by decide, rfl⟩
    exact absurd hsame (by decide)

end BlockLang
