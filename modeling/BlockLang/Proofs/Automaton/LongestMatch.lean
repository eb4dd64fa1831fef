import BlockLang.Automaton.Basic
import Mathlib.Tactic.ByContra

/-! # The longest match of an automaton

A text *reaches* from a state if it leads to an accepting one. The scan of `longestFrom` gives the
length of the longest non-empty beginning that reaches, and `0` if there is none
(`isLongestReach_longestFrom`): it goes on behind an accepting state, and forgets what it has read
since the last one.

A *lexeme* at the head of a text is the longest word of a language there (`Longest`). Where the
language is the one of an automaton, this is the longest match (`longestMatch_eq_length_iff`). -/

namespace BlockLang

/-- A word of a language that is at least as long as every other one at the head of the text. -/
structure Longest (L : List Char → Prop) (lexeme rest : List Char) : Prop where
  mem : L lexeme
  length_le : ∀ l, L l → l <+: lexeme ++ rest → l.length ≤ lexeme.length

namespace Automaton

variable {a : Automaton}

/-- A text leads from a state to an accepting one. -/
def Reaches (a : Automaton) (q : Nat) (text : List Char) : Prop :=
  ∃ q', a.run? q text = some q' ∧ a.isAccepting q' = true

/-- A text is in the language of an automaton. The empty text never is. -/
def Matches (a : Automaton) (text : List Char) : Prop := text ≠ [] ∧ a.Reaches a.start text

theorem reaches_nil {q : Nat} : a.Reaches q [] ↔ a.isAccepting q = true := by
  simp [Reaches, run?]

theorem reaches_cons {q : Nat} {c : Char} {cs : List Char} :
    a.Reaches q (c :: cs) ↔ ∃ q', a.step? q c = some q' ∧ a.Reaches q' cs := by
  simp only [Reaches, run?, Option.bind_eq_some_iff]
  constructor
  · rintro ⟨q'', ⟨q', hs, hr⟩, ha⟩; exact ⟨q', hs, q'', hr, ha⟩
  · rintro ⟨q', hs, q'', hr, ha⟩; exact ⟨q'', ⟨q', hs, hr⟩, ha⟩

theorem not_reaches_cons {q : Nat} {c : Char} {cs : List Char} (h : a.step? q c = none) :
    ¬ a.Reaches q (c :: cs) := by
  rw [reaches_cons, h]
  rintro ⟨q', hs, -⟩
  cases hs

theorem reaches_cons_of_step {q q' : Nat} {c : Char} {cs : List Char} (h : a.step? q c = some q') :
    a.Reaches q (c :: cs) ↔ a.Reaches q' cs := by
  rw [reaches_cons, h]
  constructor
  · rintro ⟨q'', hs, hr⟩; cases hs; exact hr
  · intro hr; exact ⟨q', rfl, hr⟩

/-! ### The scan -/

/-- The length of the longest non-empty beginning of a text that reaches, or `0` if none does. -/
structure IsLongestReach (a : Automaton) (q : Nat) (text : List Char) (n : Nat) : Prop where
  le_length : n ≤ text.length
  reaches : n ≠ 0 → a.Reaches q (text.take n)
  length_le : ∀ l, l <+: text → l ≠ [] → a.Reaches q l → l.length ≤ n

theorem longestFrom_cons_of_none {q : Nat} {c : Char} {cs : List Char} (h : a.step? q c = none) :
    a.longestFrom q (c :: cs) = 0 := by
  rw [longestFrom, h]

theorem longestFrom_cons_of_some {q q' : Nat} {c : Char} {cs : List Char}
    (h : a.step? q c = some q') :
    a.longestFrom q (c :: cs) = if a.longestFrom q' cs = 0 then
      (if a.isAccepting q' then 1 else 0) else a.longestFrom q' cs + 1 := by
  rw [longestFrom, h]
  dsimp only
  split
  · next h0 => rw [if_pos h0]
  · next n hn => rw [hn, if_neg (Nat.succ_ne_zero n)]

theorem exists_tail_of_reaches {q q' : Nat} {c : Char} {cs l : List Char}
    (hs : a.step? q c = some q') (hl : l <+: c :: cs) (hne : l ≠ []) (hr : a.Reaches q l) :
    ∃ l', l = c :: l' ∧ l' <+: cs ∧ a.Reaches q' l' := by
  obtain ⟨d, l', rfl⟩ := List.exists_cons_of_ne_nil hne
  obtain ⟨rfl, hl'⟩ := List.cons_prefix_cons.mp hl
  exact ⟨l', rfl, hl', (reaches_cons_of_step hs).mp hr⟩

namespace IsLongestReach

variable {q q' : Nat} {c : Char} {cs : List Char}

theorem nil : a.IsLongestReach q [] 0 :=
  ⟨Nat.le_refl _, fun h => absurd rfl h, fun _ hl hne _ => absurd (List.prefix_nil.mp hl) hne⟩

/-- Where there is no step, nothing reaches. -/
theorem stuck (hs : a.step? q c = none) : a.IsLongestReach q (c :: cs) 0 := by
  refine ⟨Nat.zero_le _, fun h => absurd rfl h, fun l hl hne hr => ?_⟩
  obtain ⟨d, l, rfl⟩ := List.exists_cons_of_ne_nil hne
  obtain ⟨rfl, -⟩ := List.cons_prefix_cons.mp hl
  exact absurd hr (not_reaches_cons hs)

/-- Where nothing reaches after the step, the step itself is all that can. -/
theorem stop (hs : a.step? q c = some q') (h : a.IsLongestReach q' cs 0) :
    a.IsLongestReach q (c :: cs) (if a.isAccepting q' then 1 else 0) := by
  have hnil : ∀ l, l <+: c :: cs → l ≠ [] → a.Reaches q l →
      l.length = 1 ∧ a.isAccepting q' = true := by
    intro l hl hne hr
    obtain ⟨l', rfl, hl', hr'⟩ := exists_tail_of_reaches hs hl hne hr
    have hl0 : l' = [] := by
      by_contra hne'
      exact hne' (List.length_eq_zero_iff.mp (Nat.le_zero.mp (h.length_le l' hl' hne' hr')))
    subst hl0
    exact ⟨rfl, reaches_nil.mp hr'⟩
  by_cases ha : a.isAccepting q' = true
  · rw [if_pos ha]
    refine ⟨by simp, fun _ => ?_, fun l hl hne hr => Nat.le_of_eq (hnil l hl hne hr).1⟩
    show a.Reaches q [c]
    rw [reaches_cons_of_step hs, reaches_nil]; exact ha
  · rw [if_neg ha]
    exact ⟨Nat.zero_le _, fun h => absurd rfl h, fun l hl hne hr =>
      absurd (hnil l hl hne hr).2 ha⟩

/-- Where something reaches after the step, the scan goes on. -/
theorem more {n : Nat} (hs : a.step? q c = some q') (h : a.IsLongestReach q' cs n) (h0 : n ≠ 0) :
    a.IsLongestReach q (c :: cs) (n + 1) := by
  refine ⟨Nat.succ_le_succ h.le_length, fun _ => ?_, fun l hl hne hr => ?_⟩
  · rw [List.take_succ_cons, reaches_cons_of_step hs]; exact h.reaches h0
  · obtain ⟨l', rfl, hl', hr'⟩ := exists_tail_of_reaches hs hl hne hr
    by_cases hl0 : l' = []
    · subst hl0; exact Nat.succ_le_succ (Nat.zero_le _)
    · exact Nat.succ_le_succ (h.length_le l' hl' hl0 hr')

end IsLongestReach

/-- **The scan stops at the last accepting state.** -/
theorem isLongestReach_longestFrom : ∀ (text : List Char) (q : Nat),
    a.IsLongestReach q text (a.longestFrom q text)
  | [], q => IsLongestReach.nil
  | c :: cs, q => by
    rcases hs : a.step? q c with _ | q'
    · rw [longestFrom_cons_of_none hs]; exact IsLongestReach.stuck hs
    · have ih := isLongestReach_longestFrom cs q'
      rw [longestFrom_cons_of_some hs]
      by_cases h0 : a.longestFrom q' cs = 0
      · rw [if_pos h0]; rw [h0] at ih; exact ih.stop hs
      · rw [if_neg h0]; exact ih.more hs h0

theorem longestMatch_le_length (a : Automaton) (text : List Char) :
    a.longestMatch text ≤ text.length :=
  (isLongestReach_longestFrom text a.start).le_length

theorem matches_take_longestMatch {text : List Char} (h : a.longestMatch text ≠ 0) :
    a.Matches (text.take (a.longestMatch text)) := by
  refine ⟨fun h0 => ?_, (isLongestReach_longestFrom text a.start).reaches h⟩
  have hlen := congrArg List.length h0
  rw [List.length_take_of_le (longestMatch_le_length a text)] at hlen
  exact h hlen

theorem length_le_longestMatch {text l : List Char} (hl : l <+: text) (hm : a.Matches l) :
    l.length ≤ a.longestMatch text :=
  (isLongestReach_longestFrom text a.start).length_le l hl hm.1 hm.2

/-! ### Lexemes -/

section Language
variable {L : List Char → Prop} (hL : ∀ l, a.Matches l ↔ L l)
include hL

theorem longestMatch_eq_zero_iff {text : List Char} :
    a.longestMatch text = 0 ↔ ∀ l, l <+: text → ¬ L l := by
  constructor
  · intro h0 l hl hw
    have hm := (hL l).mpr hw
    have hlen := length_le_longestMatch hl hm
    rw [h0] at hlen
    exact hm.1 (List.length_eq_zero_iff.mp (Nat.le_zero.mp hlen))
  · intro h
    by_contra h0
    exact h _ (List.take_prefix _ _) ((hL _).mp (matches_take_longestMatch h0))

theorem longestMatch_eq_length_iff {lexeme rest : List Char} (hne : lexeme ≠ []) :
    a.longestMatch (lexeme ++ rest) = lexeme.length ↔ Longest L lexeme rest := by
  constructor
  · intro h
    have h0 : a.longestMatch (lexeme ++ rest) ≠ 0 := by
      rw [h]; exact fun hl => hne (List.length_eq_zero_iff.mp hl)
    refine ⟨?_, fun l hl hp => ?_⟩
    · have hm := matches_take_longestMatch h0
      rw [h, List.take_left] at hm
      exact (hL _).mp hm
    · rw [← h]; exact length_le_longestMatch hp ((hL l).mpr hl)
  · intro h
    have hle := length_le_longestMatch (List.prefix_append lexeme rest) ((hL lexeme).mpr h.mem)
    have h0 : a.longestMatch (lexeme ++ rest) ≠ 0 := by
      intro h0
      rw [h0] at hle
      exact hne (List.length_eq_zero_iff.mp (Nat.le_zero.mp hle))
    have hge := h.length_le _ ((hL _).mp (matches_take_longestMatch h0)) (List.take_prefix _ _)
    rw [List.length_take_of_le (longestMatch_le_length _ _)] at hge
    exact Nat.le_antisymm hge hle

theorem longestMatch_cons_of_longest {c : Char} {cs rest : List Char}
    (h : Longest L (c :: cs) rest) : a.longestMatch (c :: (cs ++ rest)) = cs.length + 1 :=
  (longestMatch_eq_length_iff hL (List.cons_ne_nil c cs)).mpr h

theorem longestMatch_ne_zero_iff {text : List Char} :
    a.longestMatch text ≠ 0 ↔ ∃ l, l <+: text ∧ L l := by
  rw [Ne, longestMatch_eq_zero_iff hL]
  constructor
  · intro h; by_contra hne; exact h fun l hl hw => hne ⟨l, hl, hw⟩
  · rintro ⟨l, hl, hw⟩ h; exact h l hl hw

theorem exists_longest {text : List Char} (h : ∃ l, l <+: text ∧ L l) :
    ∃ lexeme rest, text = lexeme ++ rest ∧ Longest L lexeme rest := by
  have h0 := (longestMatch_ne_zero_iff hL).mpr h
  have hlen : (text.take (a.longestMatch text)).length = a.longestMatch text :=
    List.length_take_of_le (longestMatch_le_length a text)
  refine ⟨text.take (a.longestMatch text), text.drop (a.longestMatch text),
    (List.take_append_drop _ _).symm, (longestMatch_eq_length_iff hL fun hnil => h0 ?_).mp ?_⟩
  · rw [← hlen, hnil, List.length_nil]
  · rw [List.take_append_drop, hlen]

end Language

end Automaton

end BlockLang
