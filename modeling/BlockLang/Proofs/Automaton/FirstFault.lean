import BlockLang.Proofs.Automaton.CallOrder
import BlockLang.Proofs.Text.Splitting

/-! # The first fault of a call

A call for transitions is carried out symbol by symbol, and it can fail on the way. Then it has done
what comes before its first fault, and nothing else.

* `Builder.FirstFault`: the first fault in the order source, target, symbols from left to right, with
  the symbols that come before it.
* `Builder.addTransitions_cases`: a call goes through and takes all symbols, or it tells its first
  fault and takes the symbols before.
* `Builder.SetsTransitions`: one builder is another one with the transitions on some symbols from one
  state set to one target. All else is as it was.

Together these tell when a call fails, with which error, and what it leaves
(`Builder.call_up_to_first_fault`). -/

namespace BlockLang.Builder

variable {b b' : Builder} {source target : Int} {symbols taken : List String} {e : BuildError}

/-- A number is that of a state of the builder. -/
def HasState (b : Builder) (i : Int) : Prop := 0 ≤ i ∧ i < b.nodes.length

/-- **The first fault of a call** for transitions, and the symbols that come before it: the source is
no state, or else the target is none, or else a symbol is at fault and none before it is. -/
inductive FirstFault (b : Builder) (source : Int) (symbols : List String) (target : Int) :
    List String → BuildError → Prop
  | source : ¬ b.HasState source → FirstFault b source symbols target [] (.unknownState source)
  | target : b.HasState source → ¬ b.HasState target →
      FirstFault b source symbols target [] (.unknownState target)
  | symbol {p q : Nat} {taken rest : List String} {text : String} {e : BuildError} :
      source = p → target = q → b.HasState source → b.HasState target →
      symbols = taken ++ text :: rest → (∀ text' ∈ taken, ∀ e', ¬ b.SymbolFault p q text' e') →
      b.SymbolFault p q text e → FirstFault b source symbols target taken e

/-- **One builder is another one with some transitions set**: those from one state on some symbols
lead to one target, every other one is as it was, and so are the states and the start. -/
structure SetsTransitions (b : Builder) (source : Int) (taken : List String) (target : Int)
    (b' : Builder) : Prop where
  states : SameStates b b'
  set : ∀ text ∈ taken, ∀ q, b'.HasTransition source text q ↔ q = target
  others : ∀ p text q, ¬ (p = source ∧ text ∈ taken) →
    (b'.HasTransition p text q ↔ b.HasTransition p text q)

theorem setsTransitions_nil (b : Builder) (source target : Int) :
    SetsTransitions b source [] target b where
  states := .refl b
  set _ h := absurd h List.not_mem_nil
  others _ _ _ _ := Iff.rfl

/-! ### One call -/

theorem state?_of_hasState (h : b.HasState source) :
    ∃ p : Nat, source = p ∧ p < b.nodes.length ∧ b.state? source = some p := by
  obtain ⟨p, rfl⟩ := Int.eq_ofNat_of_zero_le h.1
  have hlt : p < b.nodes.length := Int.ofNat_lt.mp h.2
  exact ⟨p, rfl, hlt, state?_eq_some_iff.mpr ⟨rfl, hlt⟩⟩

theorem Takes.setsTransitions {p q : Nat} (h : Takes b p q taken b') (hstates : SameStates b b') :
    SetsTransitions b p taken q b' where
  states := hstates
  set text hm q' := by
    obtain ⟨s, hs, hto⟩ := h.fits text hm
    constructor
    · rintro ⟨p', s', q'', hp, hs', rfl, ht⟩
      obtain rfl := Int.ofNat_inj.mp hp
      rw [hs] at hs'
      obtain rfl := Option.some.inj hs'
      rcases h.target?_eq_some_iff.mp ht with ht | ⟨-, -, heq⟩
      · rw [hto q'' ht]
      · rw [heq]
    · rintro rfl
      exact ⟨p, s, q, rfl, hs, rfl, h.target?_eq_some_iff.mpr (Or.inr ⟨rfl, ⟨text, hm, hs⟩, rfl⟩)⟩
  others p' text q' hother := by
    refine exists_congr fun p'' => exists_congr fun s => exists_congr fun q'' => ?_
    refine and_congr_right fun hp => and_congr_right fun hs => and_congr_right fun _ => ?_
    rw [h.target?_eq_some_iff]
    refine or_iff_left fun hset => hother ?_
    -- two texts that are the same symbol are the same
    obtain ⟨rfl, ⟨text', hm, hs'⟩, -⟩ := hset
    have htext := (Symbol.ofString?_eq_some_iff.mp hs).trans (Symbol.ofString?_eq_some_iff.mp hs').symm
    exact ⟨hp, htext ▸ hm⟩

/-- **What a call does**: it goes through and takes all its symbols, or it tells its first fault and
takes the symbols before. -/
theorem addTransitions_cases (b : Builder) (source : Int) (symbols : List String) (target : Int) :
    ((b.addTransitions source symbols target).2 = none ∧ b.HasState source ∧ b.HasState target ∧
      SetsTransitions b source symbols target (b.addTransitions source symbols target).1 ∧
      ∀ p q : Nat, source = p → target = q → ∀ text ∈ symbols, b.Fits p q text) ∨
    ∃ taken e, (b.addTransitions source symbols target).2 = some e ∧
      b.FirstFault source symbols target taken e ∧
      SetsTransitions b source taken target (b.addTransitions source symbols target).1 := by
  by_cases hsource : b.HasState source
  · obtain ⟨p, hp, hplt, hpstate⟩ := state?_of_hasState hsource
    by_cases htarget : b.HasState target
    · obtain ⟨q, hq, -, hqstate⟩ := state?_of_hasState htarget
      have hcall : b.addTransitions source symbols target = b.addSymbols p q symbols := by
        rw [addTransitions, hpstate, hqstate]
      have hstates : SameStates b (b.addSymbols p q symbols).1 := sameStates_addSymbols p q symbols
      rw [hcall]
      rcases b.addSymbols_cases hplt symbols with
        ⟨hnone, htakes⟩ | ⟨taken, text, rest, e, hsplit, hfault, he, htakes⟩
      · left
        refine ⟨hnone, hsource, htarget, ?_, fun p' q' hp' hq' => ?_⟩
        · rw [hp, hq]
          exact htakes.setsTransitions hstates
        · obtain rfl : p = p' := by omega
          obtain rfl : q = q' := by omega
          exact htakes.fits
      · right
        refine ⟨taken, e, he, .symbol hp hq hsource htarget hsplit (fun text' hm => ?_) hfault, ?_⟩
        · exact (htakes.fits text' hm).not_symbolFault
        · rw [hp, hq]
          exact htakes.setsTransitions hstates
    · right
      have hqstate : b.state? target = none := state?_eq_none_iff.mpr htarget
      refine ⟨[], .unknownState target, ?_, .target hsource htarget, ?_⟩
      · rw [addTransitions, hpstate, hqstate]
      · rw [addTransitions, hpstate, hqstate]
        exact setsTransitions_nil b source target
  · right
    have hpstate : b.state? source = none := state?_eq_none_iff.mpr hsource
    refine ⟨[], .unknownState source, ?_, .source hsource, ?_⟩
    · rw [addTransitions, hpstate]
    · rw [addTransitions, hpstate]
      exact setsTransitions_nil b source target

/-! ### The fault that is told -/

theorem SymbolFault.unique {p q : Nat} {text : String} {e' : BuildError}
    (h : b.SymbolFault p q text e) (h' : b.SymbolFault p q text e') : e = e' := by
  have hsymbol : ∀ {existing : Int}, b.HasTransition p text existing →
      ∃ c : Char, text = String.singleton c ∧ c.toNat < 128 := by
    rintro existing ⟨p', s, q', -, hs, -, -⟩
    exact Symbol.exists_ofString?_iff.mp ⟨s, hs⟩
  cases h with
  | foreign hforeign =>
    cases h' with
    | foreign _ => rfl
    | conflict ht _ => exact absurd (hsymbol ht) hforeign
  | conflict ht _ =>
    cases h' with
    | foreign hforeign => exact absurd (hsymbol ht) hforeign
    | conflict ht' _ =>
      have heq := b.functional_hasTransition _ _ _ _ ht ht'
      rw [Int.ofNat_inj.mp heq]

theorem FirstFault.unique {taken' : List String} {e' : BuildError}
    (h : b.FirstFault source symbols target taken e)
    (h' : b.FirstFault source symbols target taken' e') : taken = taken' ∧ e = e' := by
  cases h with
  | source hsource =>
    cases h' with
    | source _ => exact ⟨rfl, rfl⟩
    | target hsource' _ => exact absurd hsource' hsource
    | symbol _ _ hsource' => exact absurd hsource' hsource
  | target hsource htarget =>
    cases h' with
    | source hsource' => exact absurd hsource hsource'
    | target _ _ => exact ⟨rfl, rfl⟩
    | symbol _ _ _ htarget' => exact absurd htarget' htarget
  | @symbol p q _ rest text _ hp hq hsource htarget hsplit hbefore hfault =>
    cases h' with
    | source hsource' => exact absurd hsource hsource'
    | target _ htarget' => exact absurd htarget htarget'
    | @symbol p' q' _ rest' text' _ hp' hq' _ _ hsplit' hbefore' hfault' =>
      obtain rfl : p = p' := by omega
      obtain rfl : q = q' := by omega
      have hno : ∀ {l : List String}, (∀ y ∈ l, ∀ e, ¬ b.SymbolFault p q y e) →
          ∀ y ∈ l, ¬ ∃ e, b.SymbolFault p q y e := fun h y hy ⟨e, he⟩ => h y hy e he
      obtain ⟨rfl, rfl, -⟩ := eq_of_append_cons_of_first (hno hbefore) (hno hbefore') ⟨e, hfault⟩
        ⟨e', hfault'⟩ (hsplit.symm.trans hsplit')
      exact ⟨rfl, hfault.unique hfault'⟩

/-- **What a first fault is**: a state that is not there, a text that is no symbol, or a transition to
another target. -/
theorem FirstFault.cases (h : b.FirstFault source symbols target taken e) :
    ¬ b.HasState source ∨ ¬ b.HasState target ∨
    (∃ text ∈ symbols, ¬ ∃ c : Char, text = String.singleton c ∧ c.toNat < 128) ∨
    ∃ text ∈ symbols, ∃ other, b.HasTransition source text other ∧ other ≠ target := by
  cases h with
  | source hsource => exact Or.inl hsource
  | target _ htarget => exact Or.inr (Or.inl htarget)
  | symbol hp hq _ _ hsplit _ hfault =>
    right; right
    have hm := hsplit ▸ List.mem_append_right taken List.mem_cons_self
    cases hfault with
    | foreign hforeign => exact Or.inl ⟨_, hm, hforeign⟩
    | @conflict existing ht hne =>
      refine Or.inr ⟨_, hm, existing, hp ▸ ht, ?_⟩
      rw [hq]
      exact fun heq => hne (Int.ofNat_inj.mp heq)

/-- **A call that has a first fault tells it**, and takes the symbols before. -/
theorem FirstFault.addTransitions (h : b.FirstFault source symbols target taken e) :
    (b.addTransitions source symbols target).2 = some e ∧
      SetsTransitions b source taken target (b.addTransitions source symbols target).1 := by
  rcases b.addTransitions_cases source symbols target with
    ⟨-, hsource, htarget, -, hfits⟩ | ⟨taken', e', he, h', hset⟩
  · exfalso
    cases h with
    | source hsource' => exact hsource' hsource
    | target _ htarget' => exact htarget' htarget
    | symbol hp hq _ _ hsplit _ hfault =>
      have hm := hsplit ▸ List.mem_append_right taken List.mem_cons_self
      exact (hfits _ _ hp hq _ hm).not_symbolFault e hfault
  · obtain ⟨rfl, rfl⟩ := h.unique h'
    exact ⟨he, hset⟩

/-- **A call fails** iff a state is not there, a text is no symbol, or a transition leads elsewhere. -/
theorem addTransitions_ne_none_iff : (b.addTransitions source symbols target).2 ≠ none ↔
    ¬ b.HasState source ∨ ¬ b.HasState target ∨
    (∃ text ∈ symbols, ¬ ∃ c : Char, text = String.singleton c ∧ c.toNat < 128) ∨
    ∃ text ∈ symbols, ∃ other, b.HasTransition source text other ∧ other ≠ target := by
  rcases b.addTransitions_cases source symbols target with
    ⟨hnone, hsource, htarget, -, hfits⟩ | ⟨taken, e, he, h, -⟩
  · refine iff_of_false (fun hne => hne hnone) ?_
    obtain ⟨p, hp, -, -⟩ := state?_of_hasState hsource
    obtain ⟨q, hq, -, -⟩ := state?_of_hasState htarget
    have hfree : ∀ text ∈ symbols, ∀ e, ¬ b.SymbolFault p q text e := fun text hm =>
      (hfits p q hp hq text hm).not_symbolFault
    rintro (h | h | ⟨text, hm, hforeign⟩ | ⟨text, hm, other, ht, hne⟩)
    · exact h hsource
    · exact h htarget
    · exact hfree text hm _ (.foreign hforeign)
    · obtain ⟨p', s, existing, hp', hs, rfl, ht'⟩ := ht
      have hexisting : existing ≠ q := fun heq => hne (by rw [hq, heq])
      obtain rfl : p = p' := by omega
      exact hfree text hm _ (.conflict ⟨p, s, existing, rfl, hs, rfl, ht'⟩ hexisting)
  · refine iff_of_true (fun hnone => ?_) h.cases
    rw [he] at hnone
    cases hnone

theorem HasTransition.of_keeps {p q : Int} {text : String} (h : b.HasTransition p text q)
    (hkeeps : Keeps b b') : b'.HasTransition p text q := by
  obtain ⟨p', s, q', hp, hs, hq, ht⟩ := h
  exact ⟨p', s, q', hp, hs, hq, hkeeps p' s q' ht⟩

/-- **A call for transitions goes as far as its first fault.** It fails iff the source or the target
is no state, a text is not a single ASCII character, or there is a transition from the source on one
of the texts to another target. The error tells the first of these, in the order source, target,
texts from left to right. If a state is not there, the builder is as before. If not, the transitions
from the source on the texts before the first fault, or on all of them if there is none, are set to
the target; the other transitions, the states that accept and the start are as before. So no
transition is lost or changed, whether the call fails or not. -/
theorem call_up_to_first_fault (b : Builder) (source : Int) (symbols : List String) (target : Int) :
    ((b.call (.addTransitions source symbols target)).2 ≠ none ↔
      ¬ b.HasState source ∨ ¬ b.HasState target ∨
      (∃ text ∈ symbols, ¬ ∃ c : Char, text = String.singleton c ∧ c.toNat < 128) ∨
      ∃ text ∈ symbols, ∃ other, b.HasTransition source text other ∧ other ≠ target) ∧
    (∀ e, (b.call (.addTransitions source symbols target)).2 = some e ↔
      ∃ taken, b.FirstFault source symbols target taken e) ∧
    (¬ b.HasState source ∨ ¬ b.HasState target →
      (b.call (.addTransitions source symbols target)).1 = b) ∧
    ((b.call (.addTransitions source symbols target)).2 = none →
      SetsTransitions b source symbols target
        (b.call (.addTransitions source symbols target)).1) ∧
    (∀ taken e, b.FirstFault source symbols target taken e →
      SetsTransitions b source taken target
        (b.call (.addTransitions source symbols target)).1) ∧
    ∀ p text q, b.HasTransition p text q →
      (b.call (.addTransitions source symbols target)).1.HasTransition p text q := by
  have hcases := b.addTransitions_cases source symbols target
  refine ⟨addTransitions_ne_none_iff, fun e => ⟨fun he => ?_, fun ⟨taken, h⟩ => h.addTransitions.1⟩,
    fun hstate => ?_, fun hnone => ?_, fun taken e h => h.addTransitions.2, fun p text q h =>
    h.of_keeps (b.keeps_call _)⟩
  · rcases hcases with ⟨hnone, -⟩ | ⟨taken, e', he', h, -⟩
    · exact absurd (he.symm.trans hnone) (by simp)
    · obtain rfl := Option.some.inj (he'.symm.trans he)
      exact ⟨taken, h⟩
  · show (b.addTransitions source symbols target).1 = b
    rw [addTransitions]
    by_cases hsource : b.HasState source
    · have htarget := hstate.resolve_left fun h => h hsource
      obtain ⟨p, -, -, hp⟩ := state?_of_hasState hsource
      rw [hp, state?_eq_none_iff.mpr htarget]
    · rw [state?_eq_none_iff.mpr hsource]
  · rcases hcases with ⟨-, -, -, hset, -⟩ | ⟨-, e, he, -⟩
    · exact hset
    · exact absurd (he.symm.trans hnone) (by simp)

/-- Two calls, the second of which fails at a symbol of the first. The symbol before is taken, the
symbol behind is not. -/
example :
    let b := (twoStates.call (.addTransitions 0 ["b"] 1)).1
    let r := b.call (.addTransitions 0 ["a", "b", "c"] 0)
    r.2 = some (.conflict "b" 0 1 0) ∧
      ['a', 'b', 'c'].map (fun c => (Symbol.ofChar? c).bind (r.1.target? 0)) =
        [some 0, some 1, none] := by decide +kernel

end BlockLang.Builder
