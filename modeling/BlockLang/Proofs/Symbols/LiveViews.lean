import BlockLang.Symbols.Live

/-! # What live views show

Views of a live table are held while it goes on changing. An open frame shows what is added to it.
A closed one is never written again, and neither is a copy in the archive or in a snapshot, because
only the innermost of the open frames is written and a number is never given twice.

* `LiveTable.Step`: what can be done with a live table, an operation or a snapshot.
* `LiveTable.Numbered`: the numbers of the open frames are different ones, and no archived frame is
  open. Every step keeps this (`LiveTable.Numbered.step`).
* `LiveTable.table_run`: under it, the live table goes on as the symbol table that it holds.
* `LiveTable.frame_run`: what is closed stays as it is.
* `LiveTable.Numbered.getElem?_opened_run`: what is open stays in its place.
* `LiveTable.exists_exit_of_closed`: a frame that is no longer open was closed as the innermost one.

So a held view never disagrees with the table or with the archive (`views_of_live`). -/

namespace BlockLang

open SymbolTable (Op)

theorem SymbolTable.archive_prefix_applyAll (t : SymbolTable) (ops : List Op) :
    t.archive <+: (t.applyAll ops).archive := by
  induction ops generalizing t with
  | nil => exact List.prefix_rfl
  | cons op ops ih =>
    refine List.IsPrefix.trans ?_ (ih (t.apply op))
    cases op with
    | exit =>
      obtain ⟨innermost, _ | ⟨f, fs⟩, archive⟩ := t
      · exact List.prefix_rfl
      · exact List.prefix_append _ _
    | _ => exact List.prefix_rfl

namespace LiveTable

/-- What can be done with a live table. Views can be taken at any moment besides. -/
inductive Step
  | op (o : Op)
  | snapshot
  deriving DecidableEq, Repr

/-- The live table after a step. -/
def step (t : LiveTable) : Step → LiveTable
  | .op o => t.apply o
  | .snapshot => t.snapshot.1

/-- The live table after some steps. -/
def run (t : LiveTable) (steps : List Step) : LiveTable := steps.foldl step t

/-- The operations among some steps. -/
def Step.op? : Step → Option Op
  | .op o => some o
  | .snapshot => none

variable {t : LiveTable} {n k : Nat} {s : Step} {steps : List Step}

/-! ### Contents -/

theorem frame_eq (t : LiveTable) (n : Nat) : t.frame n = t.contents[n]?.getD {} :=
  List.getD_eq_getElem?_getD

theorem frame_grow (hn : n < t.contents.length) (frames : List Frame) :
    (t.grow frames).frame n = t.frame n := by
  rw [frame_eq, frame_eq, grow, List.getElem?_append_left hn]

theorem frame_grow_add (t : LiveTable) (frames : List Frame) (i : Nat) :
    (t.grow frames).frame (t.contents.length + i) = frames[i]?.getD {} := by
  rw [frame_eq, grow, List.getElem?_append_right (Nat.le_add_right _ _), Nat.add_sub_cancel_left]

theorem length_grow (t : LiveTable) (frames : List Frame) :
    (t.grow frames).contents.length = t.contents.length + frames.length := List.length_append

theorem frame_insert_of_ne (hne : n ≠ t.innermost) (name label : String) :
    (t.insert name label).frame n = t.frame n := by
  rw [frame_eq, frame_eq, insert]
  dsimp only
  rw [List.getElem?_modify_ne _ _ (Ne.symm hne)]

theorem frame_insert_innermost (ht : t.innermost < t.contents.length) (name label : String) :
    (t.insert name label).frame t.innermost = (t.frame t.innermost).insert name label := by
  rw [frame_eq, frame_eq, insert]
  dsimp only
  rw [List.getElem?_modify_eq, List.getElem?_eq_getElem ht]
  rfl

theorem frame_exit (hn : n < t.contents.length) : t.exit.frame n = t.frame n := by
  rw [exit]
  split
  · rfl
  · exact frame_grow hn _

theorem length_le_step (t : LiveTable) (s : Step) :
    t.contents.length ≤ (t.step s).contents.length := by
  have hgrow : ∀ frames, t.contents.length ≤ (t.grow frames).contents.length := fun frames => by
    rw [length_grow]
    exact Nat.le_add_right _ _
  cases s with
  | snapshot => exact hgrow _
  | op o =>
    cases o with
    | enter => exact hgrow _
    | insert name label => exact Nat.le_of_eq (List.length_modify _ _ _).symm
    | exit =>
      rw [step, apply, exit]
      split
      · exact Nat.le_refl _
      · exact hgrow _

/-- **A step writes to the innermost frame only.** -/
theorem frame_step (hn : n < t.contents.length) (hne : n ≠ t.innermost) (s : Step) :
    (t.step s).frame n = t.frame n := by
  cases s with
  | snapshot => exact frame_grow hn _
  | op o =>
    cases o with
    | enter => exact frame_grow hn _
    | insert name label => exact frame_insert_of_ne hne name label
    | exit => exact frame_exit hn

theorem mem_opened_of_step (hn : n < t.contents.length) (h : n ∈ (t.step s).opened) :
    n ∈ t.opened := by
  cases s with
  | snapshot => exact h
  | op o =>
    cases o with
    | enter =>
      rcases List.mem_cons.mp h with rfl | h
      · exact absurd hn (Nat.lt_irrefl _)
      · exact h
    | insert name label => exact h
    | exit =>
      rw [step, apply, exit] at h
      split at h
      · exact h
      · next henclosing =>
        rw [opened, henclosing]
        exact List.mem_cons_of_mem _ h

/-- **What is closed stays closed, and as it is.** -/
theorem frame_run (hn : n < t.contents.length) (hclosed : n ∉ t.opened) (steps : List Step) :
    (t.run steps).frame n = t.frame n ∧ n ∉ (t.run steps).opened := by
  induction steps generalizing t with
  | nil => exact ⟨rfl, hclosed⟩
  | cons s steps ih =>
    have hne : n ≠ t.innermost := fun h => hclosed (h ▸ List.mem_cons_self)
    obtain ⟨hframe, hopened⟩ := ih (Nat.lt_of_lt_of_le hn (t.length_le_step s))
      fun h => hclosed (mem_opened_of_step hn h)
    exact ⟨hframe.trans (frame_step hn hne s), hopened⟩

/-! ### Numbers -/

/-- **The numbers of a live table**: those of the open frames are different ones, no archived frame
is open, and there is a frame for each of them. -/
structure Numbered (t : LiveTable) : Prop where
  opened_lt : ∀ n ∈ t.opened, n < t.contents.length
  archive_lt : ∀ n ∈ t.archive, n < t.contents.length
  nodup : t.opened.Nodup
  disjoint : ∀ n ∈ t.archive, n ∉ t.opened

theorem numbered_empty : Numbered {} where
  opened_lt n h := by rw [List.mem_singleton.mp h]; exact Nat.zero_lt_one
  archive_lt n h := nomatch h
  nodup := List.pairwise_singleton _ _
  disjoint n h := nomatch h

namespace Numbered

theorem grow (h : t.Numbered) (frames : List Frame) : (t.grow frames).Numbered where
  opened_lt n hn := by
    rw [length_grow]
    exact Nat.lt_add_right _ (h.opened_lt n hn)
  archive_lt n hn := by
    rw [length_grow]
    exact Nat.lt_add_right _ (h.archive_lt n hn)
  nodup := h.nodup
  disjoint := h.disjoint

theorem enter (h : t.Numbered) : t.enter.Numbered := by
  have hlength : t.contents.length < t.enter.contents.length := by
    rw [show t.enter.contents.length = _ from t.length_grow [{}]]
    exact Nat.lt_succ_self _
  have hgrow := h.grow [{}]
  refine ⟨fun n hn => ?_, hgrow.archive_lt, ?_, fun n hn hopened => ?_⟩
  · rcases List.mem_cons.mp hn with rfl | hn
    · exact hlength
    · exact hgrow.opened_lt n hn
  · exact List.nodup_cons.mpr ⟨fun hn => Nat.lt_irrefl _ (h.opened_lt _ hn), h.nodup⟩
  · rcases List.mem_cons.mp hopened with rfl | hopened
    · exact Nat.lt_irrefl _ (h.archive_lt _ hn)
    · exact h.disjoint n hn hopened

theorem exit (h : t.Numbered) : t.exit.Numbered := by
  rw [LiveTable.exit]
  split
  · exact h
  · next m ms henclosing =>
    have hopened : t.opened = t.innermost :: m :: ms := by rw [opened, henclosing]
    have hgrow := h.grow [t.frame t.innermost]
    have hmem : ∀ n ∈ m :: ms, n ∈ t.opened := fun n hn => hopened ▸ List.mem_cons_of_mem _ hn
    refine ⟨fun n hn => hgrow.opened_lt n (hmem n hn), fun n hn => ?_, ?_, fun n hn hopen => ?_⟩
    · rcases List.mem_append.mp hn with hn | hn
      · exact hgrow.archive_lt n hn
      · rw [List.mem_singleton.mp hn]
        show _ < (t.grow _).contents.length
        rw [length_grow]
        exact Nat.lt_succ_self _
    · exact (List.nodup_cons.mp (hopened ▸ h.nodup)).2
    · rcases List.mem_append.mp hn with hn | hn
      · exact h.disjoint n hn (hmem n hopen)
      · rw [List.mem_singleton.mp hn] at hopen
        exact Nat.lt_irrefl _ (h.opened_lt _ (hmem _ hopen))

theorem insert (h : t.Numbered) (name label : String) : (t.insert name label).Numbered := by
  have hlength : (t.insert name label).contents.length = t.contents.length :=
    List.length_modify _ _ _
  exact ⟨fun n hn => hlength ▸ h.opened_lt n hn, fun n hn => hlength ▸ h.archive_lt n hn, h.nodup,
    h.disjoint⟩

theorem step (h : t.Numbered) : ∀ s : Step, (t.step s).Numbered
  | .op .enter => h.enter
  | .op .exit => h.exit
  | .op (.insert name label) => h.insert name label
  | .snapshot => h.grow _

theorem run (h : t.Numbered) (steps : List Step) : (t.run steps).Numbered := by
  induction steps generalizing t with
  | nil => exact h
  | cons s steps ih => exact ih (h.step s)

end Numbered

/-! ### The table -/

theorem map_frame_grow {ns : List Nat} (hns : ∀ n ∈ ns, n < t.contents.length)
    (frames : List Frame) : ns.map (t.grow frames).frame = ns.map t.frame :=
  List.map_congr_left fun n hn => frame_grow (hns n hn) frames

theorem frames_table (t : LiveTable) : t.table.frames = t.opened.map t.frame := rfl

namespace Numbered

theorem table_grow (h : t.Numbered) (frames : List Frame) : (t.grow frames).table = t.table := by
  have hopened := map_frame_grow h.opened_lt frames
  have harchive := map_frame_grow h.archive_lt frames
  obtain ⟨hinnermost, henclosing⟩ := List.cons.inj hopened
  rw [table, table, ← hinnermost, ← henclosing, ← harchive]
  rfl

theorem table_enter (h : t.Numbered) : t.enter.table = t.table.enter := by
  have hopened := map_frame_grow h.opened_lt [{}]
  have harchive := map_frame_grow h.archive_lt [{}]
  have hnew : (t.grow [{}]).frame t.contents.length = {} := t.frame_grow_add [{}] 0
  show SymbolTable.mk ((t.grow [{}]).frame t.contents.length) (t.opened.map (t.grow [{}]).frame)
    (t.archive.map (t.grow [{}]).frame) = _
  rw [hnew, hopened, harchive]
  rfl

theorem table_exit (h : t.Numbered) : t.exit.table = t.table.exit := by
  rcases henclosing : t.enclosing with _ | ⟨m, ms⟩
  · rw [LiveTable.exit, henclosing, SymbolTable.exit_of_depth_eq_one]
    rw [SymbolTable.depth, frames_table, opened, henclosing]
    rfl
  · have hframes : t.table.frames = t.frame t.innermost :: t.frame m :: ms.map t.frame := by
      rw [frames_table, opened, henclosing]
      rfl
    have hmem : ∀ n ∈ m :: ms, n < t.contents.length := fun n hn =>
      h.opened_lt n (by rw [opened, henclosing]; exact List.mem_cons_of_mem _ hn)
    obtain ⟨hm, hms⟩ := List.cons.inj (map_frame_grow hmem [t.frame t.innermost])
    have harchive := map_frame_grow h.archive_lt [t.frame t.innermost]
    have hcopy : (t.grow [t.frame t.innermost]).frame t.contents.length = t.frame t.innermost :=
      t.frame_grow_add [t.frame t.innermost] 0
    rw [SymbolTable.exit_of_frames_eq hframes, LiveTable.exit, henclosing]
    show SymbolTable.mk ((t.grow [t.frame t.innermost]).frame m)
      (ms.map (t.grow [t.frame t.innermost]).frame)
      ((t.archive ++ [t.contents.length]).map (t.grow [t.frame t.innermost]).frame) = _
    rw [hm, hms, List.map_append, harchive, List.map_singleton, hcopy]
    rfl

theorem table_insert (h : t.Numbered) (name label : String) :
    (t.insert name label).table = t.table.insert name label := by
  have hlt := h.opened_lt t.innermost List.mem_cons_self
  have hother : ∀ ns : List Nat, t.innermost ∉ ns →
      ns.map (t.insert name label).frame = ns.map t.frame := fun ns hns =>
    List.map_congr_left fun n hn => frame_insert_of_ne (fun he => hns (he ▸ hn)) name label
  have henclosing := hother t.enclosing (List.nodup_cons.mp h.nodup).1
  have harchive := hother t.archive fun hn => h.disjoint _ hn List.mem_cons_self
  show SymbolTable.mk ((t.insert name label).frame t.innermost)
    (t.enclosing.map (t.insert name label).frame) (t.archive.map (t.insert name label).frame) = _
  rw [frame_insert_innermost hlt, henclosing, harchive]
  rfl

theorem table_step (h : t.Numbered) : ∀ s : Step, (t.step s).table = t.table.applyAll s.op?.toList
  | .op .enter => h.table_enter
  | .op .exit => h.table_exit
  | .op (.insert name label) => h.table_insert name label
  | .snapshot => h.table_grow _

/-- **A live table goes on as its symbol table**, and snapshots do not change that. -/
theorem table_run (h : t.Numbered) (steps : List Step) :
    (t.run steps).table = t.table.applyAll (steps.filterMap Step.op?) := by
  induction steps generalizing t with
  | nil => rfl
  | cons s steps ih =>
    show ((t.step s).run steps).table = _
    rw [ih (h.step s), h.table_step]
    cases s <;> rfl

end Numbered

/-! ### What is open -/

theorem outermost_view_step (t : LiveTable) (s : Step) :
    (t.step s).view.outermost = t.view.outermost := by
  cases s with
  | snapshot => rfl
  | op o =>
    cases o with
    | enter => exact congrArg (·.getD t.contents.length) List.getLast?_cons
    | insert name label => rfl
    | exit =>
      rw [step, apply, exit]
      split
      · rfl
      · next m ms henclosing =>
        rw [view, view, henclosing, List.getLast?_cons]
        rfl

theorem outermost_view_run (t : LiveTable) (steps : List Step) :
    (t.run steps).view.outermost = t.view.outermost := by
  induction steps generalizing t with
  | nil => rfl
  | cons s steps ih => exact (ih (t.step s)).trans (t.outermost_view_step s)

theorem read_view (t : LiveTable) : t.read t.view = t.table.snapshot := by
  have hlast : (t.enclosing.map t.frame).getLast?.getD (t.frame t.innermost) =
      t.frame (t.enclosing.getLast?.getD t.innermost) := by
    rw [List.getLast?_map]
    cases t.enclosing.getLast? <;> rfl
  rw [SymbolTable.snapshot, frames_table, ← List.map_dropLast, ← List.map_reverse]
  show _ = Snapshot.mk ((t.enclosing.map t.frame).getLast?.getD (t.frame t.innermost)) _ _
  rw [hlast]
  rfl

theorem getElem?_active_view (t : LiveTable) (i : Nat) :
    t.view.active[i]? = t.opened.reverse[i + 1]? := by
  rw [view, ← List.tail_reverse, List.getElem?_tail]

theorem Numbered.getElem?_opened_step (h : t.Numbered) (hk : t.opened.reverse[k]? = some n)
    (hn : n ∈ (t.step s).opened) : (t.step s).opened.reverse[k]? = some n := by
  cases s with
  | snapshot => exact hk
  | op o =>
    cases o with
    | insert name label => exact hk
    | enter =>
      show (t.contents.length :: t.opened).reverse[k]? = some n
      rw [List.reverse_cons, List.getElem?_append_left (List.getElem?_eq_some_iff.mp hk).1, hk]
    | exit =>
      rw [LiveTable.step, apply, LiveTable.exit] at hn ⊢
      split at hn
      · exact hk
      · next m ms henclosing =>
        have hne : t.innermost ∉ m :: ms := henclosing ▸ (List.nodup_cons.mp h.nodup).1
        rw [opened, henclosing, List.reverse_cons] at hk
        by_cases hlt : k < (m :: ms).reverse.length
        · rwa [List.getElem?_append_left hlt] at hk
        · rw [List.getElem?_append_right (Nat.le_of_not_lt hlt)] at hk
          obtain rfl := List.mem_singleton.mp (List.mem_of_getElem? hk)
          exact absurd hn hne

/-- **What is open at last has been open all the time**, and in the same place. -/
theorem Numbered.getElem?_opened_run (h : t.Numbered) (hk : t.opened.reverse[k]? = some n)
    (hn : n ∈ (t.run steps).opened) : (t.run steps).opened.reverse[k]? = some n := by
  induction steps generalizing t with
  | nil => exact hk
  | cons s steps ih =>
    have hmem : n ∈ t.opened := List.mem_reverse.mp (List.mem_of_getElem? hk)
    have hlt := Nat.lt_of_lt_of_le (h.opened_lt n hmem) (t.length_le_step s)
    have hstep : n ∈ (t.step s).opened := by
      apply Decidable.byContradiction
      exact fun hclosed => (frame_run hlt hclosed steps).2 hn
    exact ih (h.step s) (h.getElem?_opened_step hk hstep) hn

theorem eq_exit_of_closed (hn : n ∈ t.opened) (hclosed : n ∉ (t.step s).opened) :
    s = .op .exit ∧ t.innermost = n ∧ t.enclosing ≠ [] := by
  cases s with
  | snapshot => exact absurd hn hclosed
  | op o =>
    cases o with
    | insert name label => exact absurd hn hclosed
    | enter => exact absurd (List.mem_cons_of_mem _ hn) hclosed
    | exit =>
      rw [step, apply, exit] at hclosed
      split at hclosed
      · exact absurd hn hclosed
      · next m ms henclosing =>
        rcases List.mem_cons.mp hn with rfl | hn
        · exact ⟨rfl, rfl, by rw [henclosing]; exact List.cons_ne_nil _ _⟩
        · rw [henclosing] at hn
          exact absurd hn hclosed

/-- **A frame that is no longer open was closed at some moment**, and was the innermost one then. -/
theorem exists_exit_of_closed (hn : n ∈ t.opened) (hclosed : n ∉ (t.run steps).opened) :
    ∃ before after, steps = before ++ .op .exit :: after ∧ (t.run before).innermost = n ∧
      (t.run before).enclosing ≠ [] := by
  induction steps generalizing t with
  | nil => exact absurd hn hclosed
  | cons s steps ih =>
    by_cases hstep : n ∈ (t.step s).opened
    · obtain ⟨before, after, rfl, hinnermost⟩ := ih hstep hclosed
      exact ⟨s :: before, after, rfl, hinnermost⟩
    · obtain ⟨rfl, hinnermost⟩ := eq_exit_of_closed hn hstep
      exact ⟨[], steps, rfl, hinnermost⟩

/-! ### Snapshots -/

theorem map_frame_run {ns : List Nat} (hns : ∀ n ∈ ns, n < t.contents.length ∧ n ∉ t.opened)
    (steps : List Step) : ns.map (t.run steps).frame = ns.map t.frame :=
  List.map_congr_left fun n hn => (frame_run (hns n hn).1 (hns n hn).2 steps).1

theorem map_frame_grow_range (t : LiveTable) (frames : List Frame) :
    (List.range' t.contents.length frames.length).map (t.grow frames).frame = frames := by
  refine List.ext_getElem (by simp) fun i _ hi => ?_
  rw [List.getElem_map, List.getElem_range', Nat.one_mul, frame_grow_add, List.getElem?_eq_getElem hi]
  rfl

/-- What a view shows depends on the contents of its frames only. -/
theorem read_congr {t t' : LiveTable} {v v' : View} (hlength : v.archived.length = v'.archived.length)
    (h : v.numbers.map t.frame = v'.numbers.map t'.frame) : t.read v = t'.read v' := by
  obtain ⟨houtermost, hrest⟩ := List.cons.inj h
  rw [List.map_append, List.map_append] at hrest
  obtain ⟨harchived, hactive⟩ := List.append_inj hrest (by simpa using hlength)
  rw [read, read, houtermost, harchived, hactive]

theorem numbers_copy (t : LiveTable) (v : View) :
    (t.copy v).2.numbers = List.range' t.contents.length v.numbers.length := by
  rw [View.numbers, View.numbers, List.length_cons, List.length_append, List.range'_succ, copy]
  dsimp only
  rw [List.range'_append_1]

/-- **A snapshot shows the table of its moment for ever.** -/
theorem read_snapshot_run (h : t.Numbered) (steps : List Step) :
    (t.snapshot.1.run steps).read t.snapshot.2 = t.table.snapshot := by
  have hnew : ∀ n ∈ t.snapshot.2.numbers,
      n < t.snapshot.1.contents.length ∧ n ∉ t.snapshot.1.opened := by
    intro n hn
    rw [snapshot, numbers_copy, List.mem_range'_1] at hn
    refine ⟨?_, fun hopened => ?_⟩
    · show n < (t.grow _).contents.length
      rw [length_grow, List.length_map]
      exact hn.2
    · exact absurd (h.opened_lt n hopened) (Nat.not_lt_of_le hn.1)
  have hcopies : t.snapshot.2.numbers.map t.snapshot.1.frame = t.view.numbers.map t.frame := by
    have hrange := t.map_frame_grow_range (t.view.numbers.map t.frame)
    rw [List.length_map] at hrange
    rw [snapshot, numbers_copy]
    exact hrange
  rw [← t.read_view]
  refine read_congr (List.length_range' ..) ?_
  rw [map_frame_run hnew, hcopies]

/-! ### Held views -/

theorem run_append (t : LiveTable) (steps later : List Step) :
    t.run (steps ++ later) = (t.run steps).run later := List.foldl_append

/-- **A frame that is closed as the innermost one** stays as the archive entry that is made of it. -/
theorem Numbered.frame_of_closed (h : t.Numbered) (henclosing : t.enclosing ≠ [])
    (after : List Step) :
    ((t.step (.op .exit)).run after).frame t.innermost = t.table.innermost ∧
    t.table.exit.archive = t.table.archive ++ [t.table.innermost] ∧
    ((t.step (.op .exit)).run after).table.archive[t.table.archive.length]? =
      some t.table.innermost := by
  obtain ⟨m, ms, hms⟩ := List.exists_cons_of_ne_nil henclosing
  have hlt := h.opened_lt t.innermost List.mem_cons_self
  have hclosed : t.innermost ∉ t.exit.opened := by
    rw [LiveTable.exit, hms]
    show t.innermost ∉ m :: ms
    rw [← hms]
    exact (List.nodup_cons.mp h.nodup).1
  have hframes : t.table.frames = t.table.innermost :: t.frame m :: ms.map t.frame := by
    rw [frames_table, opened, hms]
    rfl
  have harchive : t.table.exit.archive = t.table.archive ++ [t.table.innermost] := by
    rw [SymbolTable.exit_of_frames_eq hframes]
  refine ⟨?_, harchive, ?_⟩
  · have hlt' := Nat.lt_of_lt_of_le hlt (t.length_le_step (.op .exit))
    rw [(frame_run hlt' hclosed after).1]
    exact frame_exit hlt
  · have hprefix := SymbolTable.archive_prefix_applyAll t.table.exit (after.filterMap Step.op?)
    have htable : (t.step (.op .exit)).table = t.table.exit := h.table_exit
    rw [(h.step _).table_run, htable]
    obtain ⟨more, hmore⟩ := hprefix
    rw [← hmore, harchive, List.append_assoc, List.getElem?_append_right (Nat.le_refl _),
      Nat.sub_self]
    rfl

/-- **Held views never disagree with the table or with the archive.** A view is taken after some
steps and read after later ones. The live table is still the symbol table that the operations make.
The view shows the outermost frame as it is now, and the archive as it was. It shows as many open
frames as there were: one that is still open as it is now, in its place, and one that has been
closed as the archive entry that was made of it then, which is still in its place. A snapshot shows
the table of its moment for ever. -/
theorem views_of_live (steps later : List Step) :
    let t := run {} steps
    let t' := run {} (steps ++ later)
    t'.table = SymbolTable.applyAll {} ((steps ++ later).filterMap Step.op?) ∧
    (t'.read t.view).outermost = t'.table.snapshot.outermost ∧
    (t'.read t.view).archived = t.table.snapshot.archived ∧
    (t'.read t.view).active.length = t.table.snapshot.active.length ∧
    (∀ (i n : Nat), t.view.active[i]? = some n → ∃ f, (t'.read t.view).active[i]? = some f ∧
      (n ∈ t'.opened → t'.table.snapshot.active[i]? = some f) ∧
      (n ∉ t'.opened → ∃ before after, later = before ++ .op .exit :: after ∧
        let closing := run {} (steps ++ before)
        closing.innermost = n ∧ closing.table.innermost = f ∧
        closing.table.exit.archive = closing.table.archive ++ [f] ∧
        t'.table.archive[closing.table.archive.length]? = some f)) ∧
    (t.snapshot.1.run later).read t.snapshot.2 = t.table.snapshot := by
  intro t t'
  have h : t.Numbered := numbered_empty.run steps
  have ht' : t' = t.run later := run_append {} steps later
  refine ⟨numbered_empty.table_run _, ?_, ?_, ?_, fun i n hn => ?_, read_snapshot_run h later⟩
  · have houtermost : t'.view.outermost = t.view.outermost := by
      rw [ht']
      exact t.outermost_view_run later
    rw [← read_view, read, read, houtermost]
  · have harchived : ∀ n ∈ t.archive, n < t.contents.length ∧ n ∉ t.opened := fun n hn =>
      ⟨h.archive_lt n hn, h.disjoint n hn⟩
    rw [ht']
    exact map_frame_run harchived later
  · rw [← read_view]
    exact (List.length_map _).trans (List.length_map _).symm
  · have hplace : t.opened.reverse[i + 1]? = some n := by rw [← getElem?_active_view, hn]
    have hopened : n ∈ t.opened := List.mem_reverse.mp (List.mem_of_getElem? hplace)
    refine ⟨t'.frame n, by rw [read, List.getElem?_map, hn]; rfl, fun hopen => ?_, fun hclosed => ?_⟩
    · have hkept : t'.view.active[i]? = some n := by
        rw [getElem?_active_view, ht']
        exact h.getElem?_opened_run hplace (ht' ▸ hopen)
      rw [← read_view, read, List.getElem?_map, hkept]
      rfl
    · rw [ht'] at hclosed
      obtain ⟨before, after, rfl, hinnermost, henclosing⟩ := exists_exit_of_closed hopened hclosed
      have hmid : run {} (steps ++ before) = t.run before := run_append {} steps before
      have hend : t' = ((t.run before).step (.op .exit)).run after := by
        rw [ht', run_append]
        rfl
      obtain ⟨hframe, harchive, hentry⟩ := (h.run before).frame_of_closed henclosing after
      rw [hinnermost] at hframe
      refine ⟨before, after, rfl, ?_⟩
      rw [hmid, hend, hframe]
      exact ⟨hinnermost, rfl, harchive, hentry⟩

end LiveTable

end BlockLang
