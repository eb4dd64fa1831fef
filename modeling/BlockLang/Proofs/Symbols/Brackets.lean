import BlockLang.Symbols.Operation

/-! # Bracketed operations

A frame is opened on a symbol table, some operations follow, and the frame is closed. If these are
balanced, the open frames are what they were before.

* `Balanced`: as many frames are closed as are opened, and none before it has been opened.
* `ownEntries`: the names that operations add to the frame that was innermost before them.
* `Stacked`: a table with some frames on top of a given frame and of those below it. Every operation
  that keeps off the given frame keeps this, one lemma for each, and so does a run of them
  (`Stacked.applyAll`): the frames below never change, and the given one takes its own names only.
* `depth_add_length_archive`: every frame that was opened is open or archived, after any operations.

Together this is the law of brackets, `applyAll_bracket`. -/

namespace BlockLang

/-- The frame with some more labels, given one after the other. -/
def Frame.insertAll (f : Frame) (entries : List (String × String)) : Frame :=
  entries.foldl (fun f e => f.insert e.1 e.2) f

namespace SymbolTable

/-- At every moment, some operations have closed at most `d` frames more than they have opened. -/
def ClosesAtMost (d : Nat) (ops : List Op) : Prop :=
  ∀ done, done <+: ops → done.count .exit ≤ done.count .enter + d

/-- **Balanced operations.** They close as many frames as they open, and at every moment they have
closed no more than they have opened. -/
structure Balanced (ops : List Op) : Prop where
  count_eq : ops.count .enter = ops.count .exit
  count_le : ∀ done, done <+: ops → done.count .exit ≤ done.count .enter

/-- The names that some operations add to a frame with `d` frames on top of it, with their labels. -/
def ownEntries : Nat → List Op → List (String × String)
  | _, [] => []
  | d, .enter :: ops => ownEntries (d + 1) ops
  | d, .exit :: ops => ownEntries (d - 1) ops
  | 0, .insert name label :: ops => (name, label) :: ownEntries 0 ops
  | d + 1, .insert _ _ :: ops => ownEntries (d + 1) ops

/-! ### Counting -/

theorem balanced_iff {ops : List Op} : Balanced ops ↔ ops.count .enter = ops.count .exit ∧
    ∀ i < ops.length + 1, (ops.take i).count .exit ≤ (ops.take i).count .enter := by
  constructor
  · exact fun h => ⟨h.count_eq, fun i _ => h.count_le _ (List.take_prefix i ops)⟩
  · rintro ⟨heq, hle⟩
    refine ⟨heq, fun done hdone => ?_⟩
    rw [List.prefix_iff_eq_take.mp hdone]
    exact hle _ (Nat.lt_succ_of_le hdone.length_le)

instance (ops : List Op) : Decidable (Balanced ops) := decidable_of_iff _ balanced_iff.symm

namespace ClosesAtMost

variable {d : Nat} {ops : List Op}

theorem of_enter (h : ClosesAtMost d (.enter :: ops)) : ClosesAtMost (d + 1) ops := by
  intro done hdone
  have hle := h (.enter :: done) (List.cons_prefix_cons.mpr ⟨rfl, hdone⟩)
  rw [List.count_cons_self, List.count_cons_of_ne (by decide)] at hle
  omega

theorem of_exit (h : ClosesAtMost d (.exit :: ops)) : ∃ d', d = d' + 1 ∧ ClosesAtMost d' ops := by
  have hfirst : 1 ≤ d := by simpa using h [.exit] (List.cons_prefix_cons.mpr ⟨rfl, List.nil_prefix⟩)
  refine ⟨d - 1, by omega, fun done hdone => ?_⟩
  have hle := h (.exit :: done) (List.cons_prefix_cons.mpr ⟨rfl, hdone⟩)
  rw [List.count_cons_self, List.count_cons_of_ne (by decide)] at hle
  omega

theorem of_insert {name label : String} (h : ClosesAtMost d (.insert name label :: ops)) :
    ClosesAtMost d ops := by
  intro done hdone
  have hle := h (.insert name label :: done) (List.cons_prefix_cons.mpr ⟨rfl, hdone⟩)
  rwa [List.count_cons_of_ne (by simp), List.count_cons_of_ne (by simp)] at hle

end ClosesAtMost

/-! ### What lies below -/

/-- **A table on a given frame.** It has `d` frames on top of `f`, the frames `fs` are below, and `n`
frames have been archived since the archive was `archive`. -/
structure Stacked (archive : List Frame) (fs : List Frame) (d n : Nat) (f : Frame)
    (t : SymbolTable) : Prop where
  frames : ∃ top, top.length = d ∧ t.frames = top ++ f :: fs
  archive : ∃ closed, closed.length = n ∧ t.archive = archive ++ closed

namespace Stacked

variable {archive fs : List Frame} {d n : Nat} {f : Frame} {t : SymbolTable}

theorem enter (h : Stacked archive fs d n f t) : Stacked archive fs (d + 1) n f t.enter := by
  obtain ⟨top, hlength, hframes⟩ := h.frames
  refine ⟨⟨{} :: top, by rw [List.length_cons, hlength], ?_⟩, h.archive⟩
  rw [List.cons_append, ← hframes]
  rfl

theorem exit (h : Stacked archive fs (d + 1) n f t) : Stacked archive fs d (n + 1) f t.exit := by
  obtain ⟨closed, hclosed, harchive⟩ := h.archive
  obtain ⟨g, top, hlength, hframes⟩ : ∃ g top, top.length = d ∧ t.frames = g :: (top ++ f :: fs) := by
    obtain ⟨_ | ⟨g, top⟩, hlength, hframes⟩ := h.frames
    · cases hlength
    · exact ⟨g, top, Nat.succ.inj hlength, hframes⟩
  obtain ⟨g', gs, hrest⟩ : ∃ g' gs, top ++ f :: fs = g' :: gs :=
    List.exists_cons_of_ne_nil (by simp)
  rw [exit_of_frames_eq (hrest ▸ hframes)]
  refine ⟨⟨top, hlength, hrest.symm⟩, closed ++ [g], by simp [hclosed], ?_⟩
  rw [harchive, List.append_assoc]

theorem insert_above (h : Stacked archive fs (d + 1) n f t) (name label : String) :
    Stacked archive fs (d + 1) n f (t.insert name label) := by
  obtain ⟨_ | ⟨g, top⟩, hlength, hframes⟩ := h.frames
  · cases hlength
  · have htop : t.enclosing = top ++ f :: fs := (List.cons.inj hframes).2
    refine ⟨⟨t.innermost.insert name label :: top, hlength, ?_⟩, h.archive⟩
    rw [List.cons_append, ← htop]
    rfl

theorem insert_here (h : Stacked archive fs 0 n f t) (name label : String) :
    Stacked archive fs 0 n (f.insert name label) (t.insert name label) := by
  obtain ⟨top, hlength, hframes⟩ := h.frames
  obtain rfl := List.length_eq_zero_iff.mp hlength
  obtain ⟨rfl, hfs⟩ := List.cons.inj hframes
  refine ⟨⟨[], rfl, ?_⟩, h.archive⟩
  rw [List.nil_append, ← hfs]
  rfl

/-- **A whole run.** The frames below stay, and the given frame takes its own names. -/
theorem applyAll : ∀ {ops : List Op} {d n : Nat} {f : Frame} {t : SymbolTable},
    Stacked archive fs d n f t → ClosesAtMost d ops →
      ∃ d', d' + ops.count .exit = d + ops.count .enter ∧
        Stacked archive fs d' (n + ops.count .exit) (f.insertAll (ownEntries d ops)) (t.applyAll ops)
  | [], d, _, _, _, h, _ => ⟨d, rfl, h⟩
  | .enter :: ops, d, n, f, t, h, hc => by
    obtain ⟨d', hd', hrun⟩ := h.enter.applyAll hc.of_enter
    rw [List.count_cons_self, List.count_cons_of_ne (by decide)]
    exact ⟨d', by omega, hrun⟩
  | .exit :: ops, d, n, f, t, h, hc => by
    obtain ⟨d, rfl, hc'⟩ := hc.of_exit
    obtain ⟨d', hd', hrun⟩ := h.exit.applyAll hc'
    rw [List.count_cons_self, List.count_cons_of_ne (by decide), Nat.add_comm _ 1, ← Nat.add_assoc]
    exact ⟨d', by omega, hrun⟩
  | .insert name label :: ops, 0, n, f, t, h, hc => by
    rw [List.count_cons_of_ne (by simp), List.count_cons_of_ne (by simp)]
    exact (h.insert_here name label).applyAll hc.of_insert
  | .insert name label :: ops, d + 1, n, f, t, h, hc => by
    rw [List.count_cons_of_ne (by simp), List.count_cons_of_ne (by simp)]
    exact (h.insert_above name label).applyAll hc.of_insert

end Stacked

/-! ### Where the frames are -/

/-- **Every frame that is opened is open or archived.** -/
theorem depth_add_length_archive (t : SymbolTable) (ops : List Op) :
    (t.applyAll ops).depth + (t.applyAll ops).archive.length =
      t.depth + t.archive.length + ops.count .enter := by
  induction ops generalizing t with
  | nil => rfl
  | cons op ops ih =>
    show ((t.apply op).applyAll ops).depth + ((t.apply op).applyAll ops).archive.length = _
    rw [ih]
    cases op with
    | enter =>
      rw [List.count_cons_self, apply, depth_enter]
      show t.depth + 1 + t.archive.length + _ = _
      omega
    | exit =>
      rw [List.count_cons_of_ne (by decide)]
      obtain ⟨innermost, _ | ⟨f, fs⟩, archive⟩ := t
      · rfl
      · simp only [apply, SymbolTable.exit, depth, frames, List.length_cons, List.length_append,
          List.length_nil]
        omega
    | insert name label =>
      rw [List.count_cons_of_ne (by simp)]
      rfl

theorem applyAll_brackets (t : SymbolTable) {ops : List Op} (hops : Balanced ops) :
    (t.applyAll (.enter :: ops ++ [.exit])).frames = t.frames ∧
      ∃ inner, inner.length = ops.count .enter ∧
        (t.applyAll (.enter :: ops ++ [.exit])).archive =
          t.archive ++ inner ++ [Frame.ofList (ownEntries 0 ops)] := by
  have hstart : Stacked t.archive t.frames 0 0 {} t.enter :=
    ⟨⟨[], rfl, rfl⟩, [], rfl, (List.append_nil _).symm⟩
  obtain ⟨d, hd, hrun⟩ := hstart.applyAll hops.count_le
  obtain rfl : d = 0 := by have := hops.count_eq; omega
  obtain ⟨top, hlength, hframes⟩ := hrun.frames
  obtain ⟨inner, hinner, harchive⟩ := hrun.archive
  obtain rfl := List.length_eq_zero_iff.mp hlength
  have hexit : t.applyAll (.enter :: ops ++ [.exit]) = (t.enter.applyAll ops).exit := by
    rw [SymbolTable.applyAll, List.foldl_append]
    rfl
  rw [hexit, exit_of_frames_eq hframes]
  refine ⟨rfl, inner, by rw [hinner, Nat.zero_add, hops.count_eq], ?_⟩
  rw [harchive]
  rfl

/-- **The law of brackets.** When a frame is opened, balanced operations follow and the frame is
closed, all open frames are as they were before, with their names, labels and order, and so every
name is found where it was. The archive has grown at its end by one frame for each that was opened,
and the last of them has the names that were added in the outer one. And after any operations on a
new table, the outermost frame is open, and all others that were opened are open or archived. -/
theorem applyAll_bracket :
    (∀ (t : SymbolTable) (ops : List Op), Balanced ops →
      (t.applyAll (.enter :: ops ++ [.exit])).frames = t.frames ∧
      (∀ name, (t.applyAll (.enter :: ops ++ [.exit])).isVisible name = t.isVisible name) ∧
      (∀ name, (t.applyAll (.enter :: ops ++ [.exit])).existsHere name = t.existsHere name) ∧
      ∃ inner, inner.length = ops.count .enter ∧
        (t.applyAll (.enter :: ops ++ [.exit])).archive =
          t.archive ++ inner ++ [Frame.ofList (ownEntries 0 ops)]) ∧
    ∀ ops : List Op, 1 ≤ (applyAll {} ops).depth ∧
      (applyAll {} ops).depth + (applyAll {} ops).archive.length = 1 + ops.count .enter := by
  refine ⟨fun t ops hops => ?_, fun ops => ⟨depth_pos _, depth_add_length_archive {} ops⟩⟩
  obtain ⟨hframes, harchive⟩ := t.applyAll_brackets hops
  have hinnermost : (t.applyAll (.enter :: ops ++ [.exit])).innermost = t.innermost :=
    (List.cons.inj hframes).1
  refine ⟨hframes, fun name => ?_, fun name => ?_, harchive⟩
  · rw [isVisible, hframes, isVisible]
  · rw [existsHere, hinnermost, existsHere]

/-- A table with one name. -/
def tableOfA : SymbolTable := insert {} "a" "int-global"

/-- Operations that shadow this name, in a frame of their own once more, and label it anew. -/
def shadowingOps : List Op :=
  [.insert "a" "int-local", .enter, .insert "a" "bool-local", .insert "b" "int-local", .exit,
    .insert "c" "int-local", .insert "a" "char-local"]

/-- The name has its label again afterwards. The outer frame is the second to be archived. -/
theorem applyAll_bracket_of_shadowing :
    Balanced shadowingOps ∧
    (tableOfA.applyAll (.enter :: shadowingOps ++ [.exit])).frames = [⟨[("a", "int-global")]⟩] ∧
    (tableOfA.applyAll (.enter :: shadowingOps ++ [.exit])).isVisible "b" = false ∧
    ∃ inner, inner.length = 1 ∧
      (tableOfA.applyAll (.enter :: shadowingOps ++ [.exit])).archive =
        inner ++ [⟨[("a", "char-local"), ("c", "int-local")]⟩] := by
  have hbalanced : Balanced shadowingOps := by decide
  obtain ⟨hframes, hvisible, -, inner, hlength, harchive⟩ :=
    applyAll_bracket.1 tableOfA shadowingOps hbalanced
  exact ⟨hbalanced, hframes, hvisible "b", inner, hlength, harchive⟩

end SymbolTable

end BlockLang
