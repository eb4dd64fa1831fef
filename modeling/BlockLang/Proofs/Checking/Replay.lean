import BlockLang.Proofs.Checking.Frames
import BlockLang.Proofs.Lexing.RoundTrip

/-! # The log as a trace of the symbol table

The log of a run tells every operation on the symbol table, in words. Read back from the words alone
and carried out on an empty table, the operations give the table of the run.

* `LogLine.op?`: the operation that a line of the log tells.
* `LogLine.Tells`: a line is true of a table. It gives the depth after its operation and the size of
  the frame that it closes; a frame that is closed is not the outermost one, and a name that is
  declared is new.
* `Replays`: lines that are true one after the other, each of the table that the ones before it have
  led to. Every statement of a check writes such lines (`replays_trace`), so a whole check does
  (`replays_traceAll`), because names have no blanks in them (`isWord_of_mem_tokenize`).

The log of a program is read in this way (`log_replays`). -/

namespace BlockLang

open SymbolTable (Op applyAll)

/-! ### Lines of the log -/

/-- A line of the log: the part of the program that it comes from, and its text. -/
structure LogLine where
  channel : String
  message : String
  deriving DecidableEq, Repr

/-- The line that tells an event. -/
def Event.line (e : Event) : LogLine := ⟨e.channel, e.message⟩

/-- The log of a run as lines. -/
def logLines (options : Options) (source filename : String) : List LogLine :=
  (log options source filename).map Event.line

/-- The channels of the symbol table and of the checker. -/
def tableChannels : List String := ["tinylang.symbols", "tinylang.checker"]

namespace LogLine

/-- The operation told by a text `declared <name> as <label>`, where the name has no blank. -/
def declaration? (text : List Char) : Option Op :=
  match "declared ".toList.isPrefixOf? text with
  | none => none
  | some rest =>
    (" as ".toList.isPrefixOf? (rest.dropWhile (· ≠ ' '))).map fun label =>
      .insert (String.ofList (rest.takeWhile (· ≠ ' '))) (String.ofList label)

/-- The operation that a line tells, read from its text. -/
def op? (line : LogLine) : Option Op :=
  if line.channel = "tinylang.symbols" then
    if "enter scope".toList <+: line.message.toList then some .enter
    else if "exit scope".toList <+: line.message.toList then some .exit
    else none
  else if line.channel = "tinylang.checker" then declaration? line.message.toList
  else none

/-- Whether a line tells of a name that is declared. -/
def isDeclaration (line : LogLine) : Bool :=
  line.channel = "tinylang.checker" ∧ "declared ".toList <+: line.message.toList

/-- **A line is true of the table before its operation.** -/
def Tells (line : LogLine) (t : SymbolTable) : Op → Prop
  | .enter => line.message = "enter scope (depth " ++ toString t.enter.depth ++ ")"
  | .exit => 1 < t.depth ∧ line.message =
      "exit scope (depth " ++ toString t.exit.depth ++ ", " ++ toString t.innermost.size ++
        " symbols)"
  | .insert name label => name ∉ t.innermost.names ∧
      line.message = "declared " ++ name ++ " as " ++ label

end LogLine

/-- **Lines that lead from one table to another.** What comes from elsewhere is passed over, and
every other line tells an operation and is true of the table that it meets. -/
inductive Replays : SymbolTable → List LogLine → SymbolTable → Prop
  | nil {t : SymbolTable} : Replays t [] t
  | aside {t t' : SymbolTable} {line : LogLine} {lines : List LogLine} :
      line.channel ∉ tableChannels → Replays t lines t' → Replays t (line :: lines) t'
  | told {t t' : SymbolTable} {line : LogLine} {lines : List LogLine} {op : Op} :
      line.op? = some op → line.Tells t op → Replays (t.apply op) lines t' →
      Replays t (line :: lines) t'

/-! ### The number of entries -/

/-- The names in all frames of a snapshot, with their labels. -/
def Snapshot.entries (s : Snapshot) : List (String × String) :=
  s.outermost.entries ++ (s.archived ++ s.active).flatMap Frame.entries

namespace SymbolTable

variable {t : SymbolTable}

/-- The names in all frames of a table, the archived ones included. -/
def entries (t : SymbolTable) : List (String × String) :=
  (t.archive ++ t.frames).flatMap Frame.entries

/-- The same names in another order. -/
theorem length_entries_snapshot (t : SymbolTable) :
    t.snapshot.entries.length = t.entries.length := by
  obtain ⟨fs, f, hfs⟩ : ∃ fs f, t.frames = fs ++ [f] :=
    ⟨_, _, (List.dropLast_concat_getLast (List.cons_ne_nil _ _)).symm⟩
  rw [snapshot_of_frames_eq hfs, entries, hfs, Snapshot.entries]
  simp only [List.flatMap_append, List.length_append, List.length_flatMap, List.map_reverse,
    List.sum_reverse, List.flatMap_singleton]
  omega

theorem length_entries_enter (t : SymbolTable) : t.enter.entries.length = t.entries.length := by
  simp [enter, entries, frames]

theorem length_entries_exit (t : SymbolTable) : t.exit.entries.length = t.entries.length := by
  obtain ⟨innermost, _ | ⟨f, fs⟩, archive⟩ := t
  · rfl
  · simp [exit, entries, frames]

theorem length_entries_insert {name : String} (h : name ∉ t.innermost.names) (label : String) :
    (t.insert name label).entries.length = t.entries.length + 1 := by
  simp [insert, entries, frames, Frame.entries_insert_of_notMem h]
  omega

end SymbolTable

/-! ### Reading a line -/

namespace LogLine

variable {line : LogLine} {t : SymbolTable} {op : Op}

/-- The checker tells insertions, and the symbol table tells the rest. -/
theorem op?_cases (h : line.op? = some op) :
    (line.channel = "tinylang.symbols" ∧ (op = .enter ∨ op = .exit)) ∨
      (line.channel = "tinylang.checker" ∧ ∃ name label, op = .insert name label) := by
  unfold op? at h
  split at h
  · next hc =>
    left
    split at h
    · cases h; exact ⟨hc, Or.inl rfl⟩
    · split at h
      · cases h; exact ⟨hc, Or.inr rfl⟩
      · cases h
  · split at h
    · next hc =>
      right
      unfold declaration? at h
      split at h
      · cases h
      · obtain ⟨text, -, rfl⟩ := Option.map_eq_some_iff.mp h
        exact ⟨hc, _, _, rfl⟩
    · cases h

theorem op?_eq_none (h : line.channel ∉ tableChannels) : line.op? = none := by
  rw [tableChannels, List.mem_cons, List.mem_singleton, not_or] at h
  rw [op?, if_neg h.1, if_neg h.2]

theorem isDeclaration_eq_false (h : line.channel ≠ "tinylang.checker") :
    line.isDeclaration = false :=
  decide_eq_false fun hd => h hd.1

theorem prefix_toList_append {words : List Char} {text : String} (h : words <+: text.toList)
    (more : String) : words <+: (text ++ more).toList :=
  h.trans (Problem.toList_prefix_append text more)

/-- **Only a declaration changes the number of names**, and it adds one. -/
theorem Tells.length_entries_apply (hop : line.op? = some op) (h : line.Tells t op) :
    (t.apply op).entries.length = t.entries.length + if line.isDeclaration then 1 else 0 := by
  rcases op?_cases hop with ⟨hc, rfl | rfl⟩ | ⟨hc, name, label, rfl⟩
  · rw [isDeclaration_eq_false (by rw [hc]; decide)]
    exact t.length_entries_enter
  · rw [isDeclaration_eq_false (by rw [hc]; decide)]
    exact t.length_entries_exit
  · obtain ⟨hnew, hm⟩ := h
    have hd : line.isDeclaration = true := by
      refine decide_eq_true ⟨hc, ?_⟩
      rw [hm]
      exact prefix_toList_append (prefix_toList_append (Problem.toList_prefix_append _ _) _) _
    rw [hd]
    exact SymbolTable.length_entries_insert hnew label

theorem op?_enteredScope (depth : Nat) : (Event.enteredScope depth).line.op? = some .enter := by
  have hwords : "enter scope".toList <+: (Event.enteredScope depth).line.message.toList :=
    prefix_toList_append (prefix_toList_append (by decide) _) _
  have hchannel : (Event.enteredScope depth).line.channel = "tinylang.symbols" := rfl
  rw [op?, if_pos hchannel, if_pos hwords]

theorem op?_exitedScope (depth size : Nat) :
    (Event.exitedScope depth size).line.op? = some .exit := by
  have hwords : "exit scope".toList <+: (Event.exitedScope depth size).line.message.toList :=
    prefix_toList_append (prefix_toList_append (prefix_toList_append
      (prefix_toList_append (by decide) _) _) _) _
  -- the second letters differ
  have hother : ¬ "enter scope".toList <+: (Event.exitedScope depth size).line.message.toList := by
    intro h
    have := List.prefix_of_prefix_length_le hwords h (by decide)
    revert this
    decide
  have hchannel : (Event.exitedScope depth size).line.channel = "tinylang.symbols" := rfl
  rw [op?, if_pos hchannel, if_neg hother, if_pos hwords]

theorem op?_declared {name : String} (hname : ' ' ∉ name.toList) (label : String) :
    (Event.declared name label).line.op? = some (.insert name label) := by
  have hchannel : (Event.declared name label).line.channel = "tinylang.checker" := rfl
  have hmessage : (Event.declared name label).line.message.toList =
      "declared ".toList ++ (name.toList ++ (" as ".toList ++ label.toList)) := by
    show ("declared " ++ name ++ " as " ++ label).toList = _
    rw [String.toList_append, String.toList_append, String.toList_append, List.append_assoc,
      List.append_assoc]
  have hstop : ∀ c ∈ (" as ".toList ++ label.toList).head?, decide (c ≠ ' ') = false := by
    intro c hc
    cases hc
    rfl
  have htake : (name.toList ++ (" as ".toList ++ label.toList)).takeWhile (· ≠ ' ') =
      name.toList := takeWhile_append_of_stop (decide_ne_of_notMem hname) hstop
  have hdrop : (name.toList ++ (" as ".toList ++ label.toList)).dropWhile (· ≠ ' ') =
      " as ".toList ++ label.toList := dropWhile_append_of_stop (decide_ne_of_notMem hname) hstop
  rw [op?, hchannel, if_neg (by decide), if_pos rfl, hmessage, declaration?,
    List.isPrefixOf?_eq_some_iff_append_eq.mpr rfl]
  dsimp only
  rw [htake, hdrop, List.isPrefixOf?_eq_some_iff_append_eq.mpr rfl, Option.map_some,
    String.ofList_toList, String.ofList_toList]

end LogLine

/-! ### Replays -/

namespace Replays

variable {t t' t'' : SymbolTable} {lines lines' : List LogLine}

theorem append (h : Replays t lines t') (h' : Replays t' lines' t'') :
    Replays t (lines ++ lines') t'' := by
  induction h with
  | nil => exact h'
  | aside hc _ ih => exact .aside hc (ih h')
  | told hop ht _ ih => exact .told hop ht (ih h')

theorem applyAll_eq (h : Replays t lines t') : applyAll t (lines.filterMap LogLine.op?) = t' := by
  induction h with
  | nil => rfl
  | aside hc _ ih => rw [List.filterMap_cons_none (LogLine.op?_eq_none hc)]; exact ih
  | told hop _ _ ih => rw [List.filterMap_cons_some hop]; exact ih

theorem isSome_op? (h : Replays t lines t') :
    ∀ line ∈ lines, line.channel ∈ tableChannels → line.op?.isSome = true := by
  induction h with
  | nil => intro line hl; cases hl
  | aside hc _ ih =>
    rintro line (_ | ⟨_, hl⟩) hm
    · exact absurd hm hc
    · exact ih line hl hm
  | told hop _ _ ih =>
    rintro line (_ | ⟨_, hl⟩) hm
    · rw [hop]; rfl
    · exact ih line hl hm

theorem tells {before after : List LogLine} {line : LogLine} {op : Op} (h : Replays t lines t')
    (hl : lines = before ++ line :: after) (hop : line.op? = some op) :
    line.Tells (applyAll t (before.filterMap LogLine.op?)) op := by
  induction h generalizing before with
  | nil => exact absurd hl.symm (by simp)
  | aside hc _ ih =>
    rcases before with _ | ⟨line', before⟩
    · obtain ⟨rfl, -⟩ := List.cons.inj hl
      rw [LogLine.op?_eq_none hc] at hop
      cases hop
    · obtain ⟨rfl, hrest⟩ := List.cons.inj hl
      rw [List.filterMap_cons_none (LogLine.op?_eq_none hc)]
      exact ih hrest
  | told hop' ht _ ih =>
    rcases before with _ | ⟨line', before⟩
    · obtain ⟨rfl, -⟩ := List.cons.inj hl
      obtain rfl := Option.some.inj (hop.symm.trans hop')
      exact ht
    · obtain ⟨rfl, hrest⟩ := List.cons.inj hl
      rw [List.filterMap_cons_some hop']
      exact ih hrest

/-- **Every declaration adds a name, and nothing else does.** -/
theorem length_entries_eq (h : Replays t lines t') :
    t'.entries.length = t.entries.length + lines.countP LogLine.isDeclaration := by
  induction h with
  | nil => rfl
  | @aside t t' line lines hc _ ih =>
    have hd : line.isDeclaration = false := LogLine.isDeclaration_eq_false fun hk => hc (by
      rw [hk]; decide)
    rw [ih, List.countP_cons, hd]
    rfl
  | told hop ht _ ih => rw [ih, ht.length_entries_apply hop, List.countP_cons]; omega

end Replays

/-! ### The log of a check -/

/-- The names that some statements declare have no blanks. -/
def HasPlainNames (sts : List Statement) : Prop :=
  ∀ type name body, .declaration type name body ∈ sts → ' ' ∉ name.lexeme.toList

/-- **What a statement writes** leads from the table before it to the one after it. -/
theorem replays_trace (s : CheckState) {st : Statement} (h : HasPlainNames [st]) :
    Replays s.table ((s.trace st).map Event.line) (s.step st).table := by
  cases st with
  | openBlock brace => exact .told (LogLine.op?_enteredScope _) rfl .nil
  | closeBlock brace =>
    obtain ⟨t, braces⟩ := s
    rcases braces with _ | ⟨brace', braces⟩
    · exact .nil
    · show Replays t ((t.events .exit).map Event.line) t.exit
      rw [SymbolTable.events]
      by_cases hd : 1 < t.depth
      · rw [if_pos hd]
        exact .told (LogLine.op?_exitedScope _ _) ⟨hd, rfl⟩ .nil
      · -- only the outermost frame is open, and it stays
        have hpos := t.depth_pos
        rw [if_neg hd, SymbolTable.exit_of_depth_eq_one (by omega)]
        exact .nil
  | declaration type name body =>
    show Replays s.table _ (s.table.declare type.lexeme name.lexeme)
    rw [CheckState.trace, SymbolTable.declare]
    by_cases hx : s.table.existsHere name.lexeme = true
    · rw [if_pos hx, if_pos hx]
      exact .nil
    · have hnew : name.lexeme ∉ s.table.innermost.names := fun hm => hx (Frame.contains_iff.mpr hm)
      rw [if_neg hx, if_neg hx]
      exact .told (LogLine.op?_declared (h type name body List.mem_cons_self) _) ⟨hnew, rfl⟩ .nil
  | _ => exact .nil

/-- **What a check writes**, statement by statement. -/
theorem replays_traceAll : ∀ {sts : List Statement}, HasPlainNames sts → ∀ s : CheckState,
    Replays s.table ((s.traceAll sts).map Event.line) (s.run sts).table
  | [], _, s => .nil
  | st :: sts, h, s => by
    have hst : HasPlainNames [st] := fun type name body hm =>
      h type name body (List.mem_singleton.mp hm ▸ List.mem_cons_self)
    have hsts : HasPlainNames sts := fun type name body hm =>
      h type name body (List.mem_cons_of_mem st hm)
    rw [CheckState.traceAll, List.map_append]
    exact (replays_trace s hst).append (replays_traceAll hsts (s.step st))

/-! ### Names in a program -/

theorem isWord_of_mem_tokenize {source : String} {t : Token} (h : t ∈ tokenize source)
    (hk : t.kind = .identifier) : IsWord t.lexeme.toList := by
  obtain ⟨tokens, line, he, ht⟩ := exists_tokensFrom_eq (segments source.toList) 1
  rw [tokenize, he] at h
  rcases List.mem_append.mp h with h | h
  · obtain ⟨s, hs, hd⟩ := ht t h
    obtain ⟨rest, hh⟩ := (segmentation_segments source.toList).exists_heads hs
    rw [hk] at hd
    have hw := wellFormed_of_denotes hh hd (fun hc => by cases hc) t.line
    rw [String.ofList_toList] at hw
    exact hw.1
  · rw [List.mem_singleton.mp h] at hk
    cases hk

theorem hasPlainNames_statements (source : String) :
    HasPlainNames (statements (beforeEnd (tokenize source))) := by
  intro type name body h hm
  obtain ⟨hmem, hk⟩ := (items_statements _).name_of_declaration h
  have hw := isWord_of_mem_tokenize ((List.takeWhile_sublist _).subset hmem) hk
  cases hw.2 ' ' hm

/-- **The log of a program is a trace of its symbol table.** The lines that come from the symbol
table and from the checker tell operations, and carried out in order on an empty table these give
the symbols of the program. Each line is true where it stands: it gives the depth after its
operation and the size of the frame that it closes, no outermost frame is closed, and a name that is
declared is new to its frame. So there are as many lines on declared names as names in all
frames. -/
theorem log_replays (options : Options) (source filename : String) :
    (applyAll {} ((logLines options source filename).filterMap LogLine.op?)).snapshot =
      (check options source filename).symbols ∧
    (∀ line ∈ logLines options source filename,
      line.channel ∈ tableChannels → line.op?.isSome = true) ∧
    (∀ before line after op, logLines options source filename = before ++ line :: after →
      line.op? = some op → line.Tells (applyAll {} (before.filterMap LogLine.op?)) op) ∧
    (logLines options source filename).countP LogLine.isDeclaration =
      (check options source filename).symbols.entries.length := by
  have hcheck := replays_traceAll (hasPlainNames_statements source) ⟨{}, []⟩
  have h : Replays {} (logLines options source filename) (checkStatements source).table := by
    have hfrontEnd : "tinylang.compiler" ∉ tableChannels := by decide
    have hlexer : "tinylang.lexer" ∉ tableChannels := by decide
    rw [logLines, log, List.map_append, List.map_append, List.append_assoc]
    refine .aside hfrontEnd (.aside hlexer (.aside hfrontEnd ?_))
    exact hcheck.append (.aside hfrontEnd .nil)
  refine ⟨by rw [h.applyAll_eq]; rfl, h.isSome_op?, fun _ _ _ _ hl hop => h.tells hl hop, ?_⟩
  have hlength := h.length_entries_eq
  rw [show (SymbolTable.entries {}).length = 0 from rfl, Nat.zero_add] at hlength
  rw [← hlength, ← SymbolTable.length_entries_snapshot]
  rfl

end BlockLang
