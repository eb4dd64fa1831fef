import BlockLang.Proofs.Automaton.TransitionList
import BlockLang.Proofs.Text.Splitting
import Mathlib.Data.List.Sort

/-! # Transition tables as texts

The report on an automaton can be read back, although its symbols stand in it as they are, line
breaks, hyphens and brackets among them.

* `Automaton.Group`: what a line of the table tells, some characters that lead from one state to
  another. The characters of a group are in strict order, so no hyphen follows a bracket in it and
  nothing in it can be taken for its end (`Automaton.delimited_group`).
* `Automaton.toList_report`: the report as a text of numbers and groups, all of which tell where they
  end. So it tells the states and the groups (`Automaton.eq_of_report_eq`).
* `Transition.AppearsIn`: a transition in a line, whatever other characters are in it. Every transition
  appears in the line of its group, and in no other (`Automaton.existsUnique_line`).

Together these tell the whole automaton from its report (`report_tells_automaton`). -/

namespace BlockLang

/-! ### Lists -/

theorem toList_intercalate_cons (separator text : String) (texts : List String) :
    (separator.intercalate (text :: texts)).toList =
      text.toList ++ texts.flatMap fun t => separator.toList ++ t.toList := by
  rw [String.toList_intercalate]
  induction texts generalizing text with
  | nil => simp
  | cons t texts ih =>
    rw [List.map_cons, List.map_cons, List.intercalate_cons_cons, ← List.map_cons, ih t,
      List.flatMap_cons, List.append_assoc, List.append_assoc]

theorem nodup_eraseDups {α : Type} [BEq α] [LawfulBEq α] (l : List α) : l.eraseDups.Nodup := by
  match l with
  | [] => exact List.nodup_nil
  | x :: l =>
    rw [List.eraseDups_cons]
    refine List.nodup_cons.mpr ⟨fun hx => ?_, nodup_eraseDups _⟩
    have hne := List.of_mem_filter (List.mem_eraseDups.mp hx)
    simp at hne
termination_by l.length
decreasing_by
  simp only [List.length_cons]
  exact Nat.lt_succ_of_le (List.length_filter_le _ _)

namespace Transition

instance : Std.Irrefl Precedes where
  irrefl t h := by
    rcases h with h | ⟨-, h⟩
    · exact lt_irrefl _ h
    · exact lt_irrefl _ h

instance : Std.Antisymm Precedes where
  antisymm t u h h' := by
    exfalso
    rcases h with h | ⟨heq, h⟩
    · rcases h' with h' | ⟨heq', -⟩ <;> omega
    · rcases h' with h' | ⟨-, h'⟩
      · omega
      · exact lt_asymm h h'

end Transition

namespace Automaton

/-! ### States -/

theorem toList_stateName (q : Nat) : (stateName q).toList = 'q' :: (toString q).toList := by
  rw [stateName, String.toList_append]
  rfl

/-- A state with a separator before it. -/
def stateWord (q : Nat) : List Char := ',' :: ' ' :: 'q' :: (toString q).toList

theorem delimited_state : Delimited (fun _ => True) NoDigit stateWord := by
  intro q q' rest rest' _ _ hrest hrest' he
  exact delimited_number trivial trivial hrest hrest' (by simpa [stateWord] using he)

/-- Some states as they are listed in a report. -/
def stateList (qs : List Nat) : List Char := (", ".intercalate (qs.map stateName)).toList

theorem stateList_cons (q : Nat) (qs : List Nat) :
    ',' :: ' ' :: stateList (q :: qs) = (q :: qs).flatMap stateWord := by
  rw [stateList, List.map_cons, toList_intercalate_cons, List.flatMap_map, List.flatMap_cons,
    toList_stateName]
  simp only [toList_stateName]
  rfl

/-- **A list of states tells where it ends**, if a line break follows it. -/
theorem delimited_stateList :
    Delimited (fun _ => True) (fun rest => rest.head? = some '\n') stateList := by
  have hfirst : ∀ (q : Nat) (qs : List Nat) {rest rest' : List Char}, rest.head? = some '\n' →
      rest ≠ stateList (q :: qs) ++ rest' := by
    intro q qs rest rest' hrest he
    rw [he, stateList, List.map_cons, toList_intercalate_cons, toList_stateName] at hrest
    cases hrest
  intro qs qs' rest rest' _ _ hrest hrest' he
  cases qs with
  | nil =>
    cases qs' with
    | nil => exact ⟨rfl, he⟩
    | cons q' qs' => exact absurd he (hfirst q' qs' hrest)
  | cons q qs =>
    cases qs' with
    | nil => exact absurd he.symm (hfirst q qs hrest')
    | cons q' qs' =>
      have hend : ∀ {l : List Char} (x : Nat) (more : List Char), True → l.head? = some '\n' →
          l ≠ stateWord x ++ more := by
        intro l x more _ hl he
        rw [he] at hl
        cases hl
      have hrow := congrArg (fun l => ',' :: ' ' :: l) he
      simp only [← List.cons_append, stateList_cons] at hrow
      have hnoDigit : ∀ (x : Nat) (l : List Char), True → NoDigit (stateWord x ++ l) :=
        fun x l _ => noDigit_of_head? rfl rfl
      exact delimited_state.flatMap hnoDigit (fun _ _ => trivial) (fun _ _ => trivial)
        (noDigit_of_head? hrest rfl) (noDigit_of_head? hrest' rfl)
        (fun x more h => hend x more h hrest) (fun x more h => hend x more h hrest') hrow

/-! ### Groups -/

/-- What a line of the table tells: the characters that lead from one state to another. -/
structure Group where
  source : Nat
  chars : List Char
  target : Nat
  deriving DecidableEq, Repr

namespace Group

/-- The line that tells a group. -/
def line (g : Group) : String :=
  "  " ++ stateName g.source ++ " --[" ++ String.ofList g.chars ++ "]--> " ++ stateName g.target

/-- **The characters of a group are in strict order.** -/
def IsSorted (g : Group) : Prop := g.chars.Pairwise fun c d => c.toNat < d.toNat

/-- A group on a line of its own. -/
def word (g : Group) : List Char := '\n' :: g.line.toList

theorem line_append (g : Group) (rest : List Char) : g.line.toList ++ rest =
    ' ' :: ' ' :: 'q' :: ((toString g.source).toList ++ ' ' :: '-' :: '-' :: '[' ::
      (g.chars ++ ']' :: '-' :: ('-' :: '>' :: ' ' :: 'q' ::
        ((toString g.target).toList ++ rest)))) := by
  simp [line, toList_stateName]

end Group

/-- **Characters in strict order end at the first bracket that a hyphen follows**, because a hyphen
comes before a bracket in the order. -/
theorem eq_of_append_bracket {cs cs' rest rest' : List Char}
    (h : cs.Pairwise fun c d => c.toNat < d.toNat) (h' : cs'.Pairwise fun c d => c.toNat < d.toNat)
    (he : cs ++ ']' :: '-' :: rest = cs' ++ ']' :: '-' :: rest') : cs = cs' ∧ rest = rest' := by
  have hbracket : ∀ {l more more' : List Char}, (']' :: l).Pairwise (fun c d => c.toNat < d.toNat) →
      '-' :: more ≠ l ++ ']' :: '-' :: more' := by
    intro l more more' hl he
    cases l with
    | nil => cases he
    | cons c l =>
      obtain ⟨rfl, -⟩ := List.cons.inj he
      have hlt := (List.pairwise_cons.mp hl).1 '-' List.mem_cons_self
      exact absurd hlt (by decide)
  induction cs generalizing cs' with
  | nil =>
    cases cs' with
    | nil => exact ⟨rfl, by simpa using he⟩
    | cons c' cs' =>
      obtain ⟨rfl, hmore⟩ := List.cons.inj he
      exact absurd hmore (hbracket h')
  | cons c cs ih =>
    cases cs' with
    | nil =>
      obtain ⟨rfl, hmore⟩ := List.cons.inj he
      exact absurd hmore.symm (hbracket h)
    | cons c' cs' =>
      obtain ⟨hc, hmore⟩ := List.cons.inj he
      obtain ⟨hcs, hrest⟩ := ih h.of_cons h'.of_cons hmore
      exact ⟨by rw [hc, hcs], hrest⟩

/-- **A group tells where it ends**, if no digit follows it. -/
theorem delimited_group : Delimited Group.IsSorted NoDigit Group.word := by
  intro g g' rest rest' hg hg' hrest hrest' he
  rw [Group.word, Group.word, List.cons_append, List.cons_append, Group.line_append,
    Group.line_append] at he
  simp only [List.cons.injEq, true_and] at he
  obtain ⟨hsource, he⟩ :=
    delimited_number trivial trivial (noDigit_of_head? rfl rfl) (noDigit_of_head? rfl rfl) he
  simp only [List.cons.injEq, true_and] at he
  obtain ⟨hchars, he⟩ := eq_of_append_bracket hg hg' he
  simp only [List.cons.injEq, true_and] at he
  obtain ⟨htarget, hend⟩ := delimited_number trivial trivial hrest hrest' he
  obtain ⟨source, chars, target⟩ := g
  obtain ⟨source', chars', target'⟩ := g'
  exact ⟨congr (congrArg₂ Group.mk hsource hchars) htarget, hend⟩

/-- **The line of a group tells the group**, in whatever order its characters are: the target is what
comes after the last letter. -/
theorem Group.eq_of_line_eq {g g' : Group} (he : g.line = g'.line) : g = g' := by
  have hletter : ∀ n : Nat, 'q' ∉ (toString n).toList := by
    intro n hm
    exact absurd (isDigit_of_mem_toString hm) (by decide)
  have hlines : g.line.toList ++ [] = g'.line.toList ++ [] := by rw [he]
  rw [Group.line_append, Group.line_append] at hlines
  simp only [List.cons.injEq, true_and, List.append_nil] at hlines
  obtain ⟨hsource, hmore⟩ :=
    delimited_number trivial trivial (noDigit_of_head? rfl rfl) (noDigit_of_head? rfl rfl) hlines
  have hsplit : ∀ h : Group, h.chars ++ ']' :: '-' :: '-' :: '>' :: ' ' :: 'q' ::
      (toString h.target).toList =
      (h.chars ++ [']', '-', '-', '>', ' ']) ++ 'q' :: (toString h.target).toList := by
    intro h
    rw [List.append_assoc]
    rfl
  simp only [List.cons.injEq, true_and] at hmore
  rw [hsplit, hsplit] at hmore
  obtain ⟨hchars, htarget⟩ := eq_of_append_cons_of_last (hletter _) (hletter _) hmore
  obtain ⟨source, chars, target⟩ := g
  obtain ⟨source', chars', target'⟩ := g'
  exact congr (congrArg₂ Group.mk hsource (List.append_cancel_right hchars))
    (eq_of_toList_toString_eq htarget)

/-! ### The groups of an automaton -/

variable {a a' : Automaton}

/-- The group of the transitions from one state to another. -/
def group (a : Automaton) (edge : Nat × Nat) : Group :=
  ⟨edge.1, a.edgeChars edge.1 edge.2, edge.2⟩

/-- The groups in the order of their lines. -/
def groups (a : Automaton) : List Group := a.edges.map a.group

theorem edgeLine_eq (a : Automaton) (edge : Nat × Nat) : a.edgeLine edge = (a.group edge).line := rfl

/-- **The characters of every group are in strict order**, as the transitions are. -/
theorem isSorted_group (a : Automaton) (edge : Nat × Nat) : (a.group edge).IsSorted := by
  have hbetween : (a.transitions.filter fun t => t.source = edge.1 ∧ t.target = edge.2).Pairwise
      Transition.Precedes := a.pairwise_transitions.filter _
  refine List.pairwise_map.mpr (hbetween.imp_of_mem fun {t u} ht hu hlt => ?_)
  have hsource : t.source = u.source := by
    have ht := List.of_mem_filter ht
    have hu := List.of_mem_filter hu
    simp only [decide_eq_true_eq] at ht hu
    rw [ht.1, hu.1]
  rw [Symbol.toNat_toChar, Symbol.toNat_toChar]
  rcases hlt with hlt | ⟨-, hlt⟩
  · omega
  · exact hlt

theorem isSorted_of_mem_groups {g : Group} (h : g ∈ a.groups) : g.IsSorted := by
  obtain ⟨edge, -, rfl⟩ := List.mem_map.mp h
  exact a.isSorted_group edge

/-- A transition is in a group if the group has its ends and its symbol. -/
def Group.Has (g : Group) (t : Transition) : Prop :=
  t.source = g.source ∧ t.target = g.target ∧ t.symbol.toChar ∈ g.chars

/-- **What is in the group of two states**: the transitions from the one to the other. -/
theorem has_group_iff {edge : Nat × Nat} {t : Transition} :
    (a.group edge).Has t ↔ t ∈ a.transitions ∧ (t.source, t.target) = edge := by
  obtain ⟨source, target⟩ := edge
  simp only [Group.Has, group, edgeChars, List.mem_map, List.mem_filter, decide_eq_true_eq,
    Prod.mk.injEq]
  constructor
  · rintro ⟨hsource, htarget, u, ⟨hu, husource, hutarget⟩, hchar⟩
    have hsymbol : t.symbol = u.symbol := by
      have hcode := congrArg Char.toNat hchar
      rw [Symbol.toNat_toChar, Symbol.toNat_toChar] at hcode
      exact Fin.ext hcode.symm
    obtain rfl : t = u := by
      obtain ⟨p, s, q⟩ := t
      obtain ⟨p', s', q'⟩ := u
      simp_all only
    exact ⟨hu, hsource, htarget⟩
  · rintro ⟨ht, hsource, htarget⟩
    exact ⟨hsource, htarget, t, ⟨ht, hsource, htarget⟩, rfl⟩

theorem mem_edges {t : Transition} (ht : t ∈ a.transitions) : (t.source, t.target) ∈ a.edges :=
  List.mem_eraseDups.mpr (List.mem_map_of_mem ht)

/-- **The groups have the transitions of the automaton.** -/
theorem exists_group_iff {t : Transition} : (∃ g ∈ a.groups, g.Has t) ↔ t ∈ a.transitions := by
  constructor
  · rintro ⟨g, hg, ht⟩
    obtain ⟨edge, -, rfl⟩ := List.mem_map.mp hg
    exact (has_group_iff.mp ht).1
  · intro ht
    exact ⟨a.group (t.source, t.target), List.mem_map_of_mem (mem_edges ht),
      has_group_iff.mpr ⟨ht, rfl⟩⟩

theorem transitions_eq_of_groups_eq (h : a.groups = a'.groups) : a.transitions = a'.transitions := by
  refine a.pairwise_transitions.eq_of_mem_iff a'.pairwise_transitions fun t => ?_
  rw [← exists_group_iff, ← exists_group_iff, h]

/-! ### Reports -/

/-- The lines above the table. -/
def titleLines (a : Automaton) : List String :=
  ["=== " ++ Text.capitalized a.name ++ " Automaton ===",
   "Total States: " ++ toString a.stateCount,
   "Start State: " ++ stateName a.start,
   "Accepting States: " ++ ", ".intercalate (a.acceptingStates.map stateName),
   "Transitions:"]

theorem report_eq (a : Automaton) :
    a.report = "\n".intercalate (a.titleLines ++ a.groups.map Group.line) := by
  rw [groups, List.map_map]
  rfl

/-- **A report is a text of words that tell where they end.** -/
theorem toList_report (a : Automaton) : a.report.toList =
    ("=== " ++ Text.capitalized a.name ++ " Automaton ===").toList ++
      ("\nTotal States: ".toList ++ ((toString a.stateCount).toList ++
        ("\nStart State: q".toList ++ ((toString a.start).toList ++
          ("\nAccepting States: ".toList ++ (stateList a.acceptingStates ++
            ("\nTransitions:".toList ++ (a.groups.flatMap Group.word ++ [])))))))) := by
  have hwords : a.groups.flatMap Group.word = a.groups.flatMap fun g => '\n' :: g.line.toList := rfl
  rw [report_eq, titleLines, List.cons_append, toList_intercalate_cons, hwords]
  simp [List.flatMap_map, toList_stateName, stateList]

/-- **A report tells the states and the groups**, if the name is known. -/
theorem eq_of_report_eq (hname : a.name = a'.name) (he : a.report = a'.report) :
    a.stateCount = a'.stateCount ∧ a.start = a'.start ∧ a.acceptingStates = a'.acceptingStates ∧
      a.groups = a'.groups := by
  have hstop : ∀ (text : String) (rest : List Char), text.toList.head? = some '\n' →
      NoDigit (text.toList ++ rest) := by
    intro text rest hhead
    have hfirst : (text.toList ++ rest).head? = some '\n' := by rw [List.head?_append, hhead]; rfl
    exact noDigit_of_head? hfirst rfl
  have hlist := congrArg String.toList he
  rw [toList_report, toList_report, hname] at hlist
  have hlist := List.append_cancel_left (List.append_cancel_left hlist)
  obtain ⟨hcount, hlist⟩ :=
    delimited_number trivial trivial (hstop _ _ rfl) (hstop _ _ rfl) hlist
  have hlist := List.append_cancel_left hlist
  obtain ⟨hstart, hlist⟩ :=
    delimited_number trivial trivial (hstop _ _ rfl) (hstop _ _ rfl) hlist
  have hlist := List.append_cancel_left hlist
  obtain ⟨haccepting, hlist⟩ := delimited_stateList trivial trivial rfl rfl hlist
  have hlist := List.append_cancel_left hlist
  have hfollows : ∀ (g : Group) (rest : List Char), g.IsSorted → NoDigit (g.word ++ rest) :=
    fun g rest _ => noDigit_of_head? rfl rfl
  have hend : ∀ (g : Group) (more : List Char), g.IsSorted → [] ≠ g.word ++ more :=
    fun g more _ h => by cases h
  obtain ⟨hgroups, -⟩ := delimited_group.flatMap hfollows (fun g => isSorted_of_mem_groups)
    (fun g => isSorted_of_mem_groups) (fun c hc => by cases hc) (fun c hc => by cases hc) hend
    hend hlist
  exact ⟨hcount, hstart, haccepting, hgroups⟩

end Automaton

/-! ### Transitions in lines -/

/-- A transition is in a line of a report: the line leads from its source to its target, on some
symbols among which is its own. -/
def Transition.AppearsIn (t : Transition) (line : String) : Prop :=
  ∃ before after, line = "  " ++ Automaton.stateName t.source ++ " --[" ++
    String.ofList (before ++ t.symbol.toChar :: after) ++ "]--> " ++ Automaton.stateName t.target

theorem Transition.appearsIn_line_iff {t : Transition} {g : Automaton.Group} :
    t.AppearsIn g.line ↔ g.Has t := by
  constructor
  · rintro ⟨before, after, hline⟩
    obtain rfl : g = ⟨t.source, before ++ t.symbol.toChar :: after, t.target⟩ :=
      Automaton.Group.eq_of_line_eq hline
    exact ⟨rfl, rfl, List.mem_append_right _ List.mem_cons_self⟩
  · rintro ⟨hsource, htarget, hchar⟩
    obtain ⟨before, after, hchars⟩ := List.append_of_mem hchar
    refine ⟨before, after, ?_⟩
    rw [Automaton.Group.line, hsource, htarget, hchars]

namespace Automaton

variable {a : Automaton}

/-- **What is in the line of two states**: the transitions from the one to the other. -/
theorem appearsIn_edgeLine_iff {t : Transition} {edge : Nat × Nat} :
    t.AppearsIn (a.edgeLine edge) ↔ t ∈ a.transitions ∧ (t.source, t.target) = edge := by
  rw [edgeLine_eq, Transition.appearsIn_line_iff, has_group_iff]

/-- **A transition is in one line**, because no two lines are about the same two states. -/
theorem existsUnique_line {t : Transition} (ht : t ∈ a.transitions) :
    ∃! i : Nat, ∃ line, (a.edges.map a.edgeLine)[i]? = some line ∧ t.AppearsIn line := by
  have hline : ∀ i : Nat, (∃ line, (a.edges.map a.edgeLine)[i]? = some line ∧ t.AppearsIn line) ↔
      a.edges[i]? = some (t.source, t.target) := by
    intro i
    rw [List.getElem?_map]
    constructor
    · rintro ⟨line, hat, happears⟩
      obtain ⟨edge, hedge, rfl⟩ := Option.map_eq_some_iff.mp hat
      rw [hedge, (appearsIn_edgeLine_iff.mp happears).2]
    · intro hedge
      refine ⟨a.edgeLine (t.source, t.target), ?_, appearsIn_edgeLine_iff.mpr ⟨ht, rfl⟩⟩
      rw [hedge]
      rfl
  obtain ⟨i, hi⟩ := List.getElem?_of_mem (mem_edges ht)
  refine ⟨i, (hline i).mpr hi, fun j hj => ?_⟩
  have hj := (hline j).mp hj
  have hlt : j < a.edges.length := (List.getElem?_eq_some_iff.mp hj).1
  exact (List.getElem?_inj hlt (nodup_eraseDups _)).mp (hj.trans hi.symm)

end Automaton

/-- **A report tells the automaton**, whatever characters are its symbols. It has five lines of
heading, and a table of lines that tell transitions. Every transition is in one of these lines and in
no other, and what is in a line is a transition of the automaton. If two automata have the same name
and the same report, they have the same number of states, the same start, the same accepting states
and the same transitions. -/
theorem report_tells_automaton (a : Automaton) :
    a.report = "\n".intercalate (a.titleLines ++ a.edges.map a.edgeLine) ∧
    (∀ t ∈ a.transitions, ∃! i : Nat, ∃ line, (a.edges.map a.edgeLine)[i]? = some line ∧
      t.AppearsIn line) ∧
    (∀ line ∈ a.edges.map a.edgeLine, ∀ t : Transition, t.AppearsIn line → t ∈ a.transitions) ∧
    ∀ a' : Automaton, a'.name = a.name → a'.report = a.report →
      a'.stateCount = a.stateCount ∧ a'.start = a.start ∧
      a'.acceptingStates = a.acceptingStates ∧ a'.transitions = a.transitions := by
  refine ⟨rfl, fun t => Automaton.existsUnique_line, fun line hline t happears => ?_,
    fun a' hname hreport => ?_⟩
  · obtain ⟨edge, hedge, rfl⟩ := List.mem_map.mp hline
    exact (Automaton.appearsIn_edgeLine_iff.mp happears).1
  · obtain ⟨hcount, hstart, haccepting, hgroups⟩ := Automaton.eq_of_report_eq hname hreport
    exact ⟨hcount, hstart, haccepting, Automaton.transitions_eq_of_groups_eq hgroups⟩

/-- A table of two lines on three lines of text: a line break is among the symbols, and a bracket and
a hyphen look like the end of it. -/
example :
    let a : Automaton := ⟨"table", [⟨true, fun s => if s.val ∈ [45, 93] then some 0 else
      if s.val = 10 then some 1 else none⟩, ⟨false, fun _ => none⟩], 0⟩
    a.report = "=== Table Automaton ===\nTotal States: 2\nStart State: q0\nAccepting States: q0\n" ++
      "Transitions:\n  q0 --[\n]--> q1\n  q0 --[-]]--> q0" := by decide +kernel

end BlockLang
