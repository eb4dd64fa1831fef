import BlockLang.Proofs.Report.SingleLine
import BlockLang.Proofs.Text.Splitting
import BlockLang.Report

/-! # Reports without loss

A report has one line for each diagnostic, and the lines and messages of the diagnostics can be read
back from it.

* `splitOn_lines`: lines put below each other are found again at the line feeds, if there are none
  inside them.
* `Record.IsTold`: a diagnostic with a message of a single line, on a line counted from one. All
  diagnostics on programs are (`isTold_records`), and each is a single line of a report
  (`Record.IsTold.singleLine_render`), which tells its line and its message
  (`Record.IsTold.told_eq_of_render_eq`).
* `reports_lose_nothing`: so the refusal of a program and the report on it are these lines, and tell
  the diagnostics. -/

namespace BlockLang

open Text (SingleLine)

/-! ### Lines -/

/-- **Lines are found again** at the line feeds between them. -/
theorem splitOn_lines {ls : List String} (h : ∀ l ∈ ls, '\n' ∉ l.toList) (hne : ls ≠ []) :
    (Report.lines ls).toList.splitOn '\n' = ls.map String.toList := by
  rw [Report.lines, String.toList_intercalate]
  refine List.splitOn_intercalate '\n' (fun l hl => ?_) (by simpa using hne)
  obtain ⟨line, hm, rfl⟩ := List.mem_map.mp hl
  exact h line hm

theorem eq_of_toString_eq {n n' : Int} (h : 0 ≤ n) (h' : 0 ≤ n') (he : toString n = toString n') :
    n = n' := by
  obtain ⟨m, rfl⟩ := Int.eq_ofNat_of_zero_le h
  obtain ⟨m', rfl⟩ := Int.eq_ofNat_of_zero_le h'
  have hdigits : m = m' := eq_of_toList_toString_eq (congrArg String.toList he)
  rw [hdigits]

/-! ### Diagnostics -/

/-- What a report tells of a diagnostic: its line and its message. -/
def Record.told (r : Record) : Option Int × String := (r.line, r.message)

/-- **A diagnostic that is told on one line**, and on which line of the program it is. -/
structure Record.IsTold (r : Record) : Prop where
  line : ∃ n, r.line = some n ∧ 1 ≤ n
  message : SingleLine r.message

namespace Record.IsTold

variable {r r' : Record}

theorem exists_render_eq (h : r.IsTold) : ∃ n, r.line = some n ∧ 1 ≤ n ∧
    r.render = "[Line " ++ (toString n ++ ("] ERROR: " ++ r.message)) := by
  obtain ⟨n, hn, h1⟩ := h.line
  refine ⟨n, hn, h1, ?_⟩
  rw [render, hn, ← String.append_assoc, ← String.append_assoc]
  exact if_pos (by omega)

theorem singleLine_render (h : r.IsTold) : SingleLine r.render := by
  obtain ⟨n, -, -, hr⟩ := h.exists_render_eq
  have hopen : SingleLine "[Line " := by decide
  have hclose : SingleLine "] ERROR: " := by decide
  rw [hr]
  exact hopen.append ((Text.singleLine_toString n).append (hclose.append h.message))

/-- **The line of a report tells the diagnostic**: the number ends at the first bracket. -/
theorem told_eq_of_render_eq (h : r.IsTold) (h' : r'.IsTold) (he : r.render = r'.render) :
    r.told = r'.told := by
  have hbracket : ∀ n : Int, ']' ∉ (toString n).toList := by
    intro n hm
    rcases Text.chars_toString n ']' hm with hd | hd <;> cases hd
  have hlist : ∀ (n : Int) (message : String), (toString n ++ ("] ERROR: " ++ message)).toList =
      (toString n).toList ++ ']' :: (" ERROR: " ++ message).toList := by
    intro n message
    rw [String.toList_append, String.toList_append, String.toList_append]
    rfl
  obtain ⟨n, hn, h1, hr⟩ := h.exists_render_eq
  obtain ⟨n', hn', h1', hr'⟩ := h'.exists_render_eq
  rw [hr, hr', String.append_right_inj, ← String.toList_inj, hlist, hlist] at he
  obtain ⟨hnumber, hmessage⟩ := eq_of_append_cons (hbracket n) (hbracket n') he
  rw [String.toList_inj] at hnumber hmessage
  rw [told, told, hn, hn', eq_of_toString_eq (by omega) (by omega) hnumber,
    (String.append_right_inj _).mp hmessage]

end Record.IsTold

theorem isTold_records (options : Options) (source filename : String) :
    ∀ r ∈ (check options source filename).records, r.IsTold := by
  intro r hr
  obtain ⟨f, hf, rfl⟩ := List.mem_map.mp hr
  exact ⟨⟨f.line, rfl, one_le_line_findings hf⟩, singleLine_findings hf⟩

/-! ### Reports -/

section Reports

variable {rs rs' : List Record}

theorem newline_notMem_of_mem_map_render (h : ∀ r ∈ rs, r.IsTold) :
    ∀ l ∈ rs.map Record.render, '\n' ∉ l.toList := by
  intro l hl
  obtain ⟨r, hr, rfl⟩ := List.mem_map.mp hl
  exact (h r hr).singleLine_render.newline_notMem

theorem splitOn_renderRecords (h : ∀ r ∈ rs, r.IsTold) (hne : rs ≠ []) :
    (renderRecords rs).toList.splitOn '\n' = rs.map (·.render.toList) := by
  have hsplit := splitOn_lines (newline_notMem_of_mem_map_render h) (by simpa using hne)
  rw [List.map_map] at hsplit
  exact hsplit

theorem splitOn_ofRecords (h : ∀ r ∈ rs, r.IsTold) (hne : rs ≠ []) :
    (Report.ofRecords rs).toList.splitOn '\n' =
      "=== Errors ===".toList :: rs.map (·.render.toList) := by
  have hlines : ∀ l ∈ "=== Errors ===" :: rs.map Record.render, '\n' ∉ l.toList :=
    List.forall_mem_cons.mpr ⟨by decide, newline_notMem_of_mem_map_render h⟩
  have hsplit := splitOn_lines hlines (List.cons_ne_nil _ _)
  rw [List.map_cons, List.map_map] at hsplit
  rw [Report.ofRecords, if_neg (by simpa using hne)]
  exact hsplit

theorem eq_nil_of_ofRecords_eq_empty (h : ∀ r ∈ rs, r.IsTold) (he : Report.ofRecords rs = "") :
    rs = [] := by
  by_contra hne
  have hsplit := splitOn_ofRecords h hne
  rw [he] at hsplit
  exact absurd (List.cons.inj hsplit).1 (by decide)

theorem map_told_eq_of_map_render_eq (h : ∀ r ∈ rs, r.IsTold) (h' : ∀ r ∈ rs', r.IsTold)
    (he : rs.map (·.render.toList) = rs'.map (·.render.toList)) :
    rs.map Record.told = rs'.map Record.told :=
  map_eq_of_map_eq (fun r hr r' hr' hline =>
    (h r hr).told_eq_of_render_eq (h' r' hr') (String.toList_inj.mp hline)) he

theorem map_told_eq_of_ofRecords_eq (h : ∀ r ∈ rs, r.IsTold) (h' : ∀ r ∈ rs', r.IsTold)
    (he : Report.ofRecords rs = Report.ofRecords rs') :
    rs.map Record.told = rs'.map Record.told := by
  by_cases hne : rs = []
  · subst hne
    rw [eq_nil_of_ofRecords_eq_empty h' he.symm]
  · have hne' : rs' ≠ [] := fun hnil =>
      hne (eq_nil_of_ofRecords_eq_empty h (by rw [he, hnil]; rfl))
    have hsplit := splitOn_ofRecords h hne
    rw [he, splitOn_ofRecords h' hne'] at hsplit
    exact map_told_eq_of_map_render_eq h h' (List.cons.inj hsplit).2.symm

end Reports

theorem Outcome.accepted_of_nil {o : Outcome} (h : o.records = []) : o.accepted = .ok o :=
  if_pos (List.isEmpty_iff.mpr (List.map_eq_nil_iff.mp h))

theorem Outcome.accepted_of_ne_nil {o : Outcome} (h : o.records ≠ []) :
    o.accepted = .error ⟨o.records⟩ :=
  if_neg fun hs => h (List.map_eq_nil_iff.mpr (List.isEmpty_iff.mp hs))

theorem Outcome.eq_of_accepted_eq_error {o : Outcome} {rejection : Rejection}
    (h : o.accepted = .error rejection) : o.records ≠ [] ∧ rejection = ⟨o.records⟩ := by
  by_cases hne : o.records = []
  · rw [o.accepted_of_nil hne] at h; cases h
  · rw [o.accepted_of_ne_nil hne] at h; cases h; exact ⟨hne, rfl⟩

/-- **Reports lose nothing, and have one line for each diagnostic.** Every diagnostic on a program
is on a line counted from one, and its message has no line break. So the text with which a program
is refused is one line for each diagnostic, in order, and the report has the same lines below its
heading; without diagnostics the program is accepted, and the report is empty. Where two runs on any
programs give the same report, or are refused with the same text, their diagnostics have the same
lines and messages. -/
theorem reports_lose_nothing (options options' : Options)
    (source source' filename filename' : String) :
    (∀ r ∈ (check options source filename).records, (∃ n, r.line = some n ∧ 1 ≤ n) ∧
      ∀ c ∈ r.message.toList, Text.isLineBreak c = false) ∧
    ((check options source filename).records = [] →
      (check options source filename).accepted = .ok (check options source filename) ∧
      Report.ofRecords (check options source filename).records = "") ∧
    ((check options source filename).records ≠ [] →
      (∃ rejection, (check options source filename).accepted = .error rejection ∧
        rejection.message.toList.splitOn '\n' =
          (check options source filename).records.map (·.render.toList)) ∧
      (Report.ofRecords (check options source filename).records).toList.splitOn '\n' =
        "=== Errors ===".toList ::
          (check options source filename).records.map (·.render.toList)) ∧
    (Report.ofRecords (check options source filename).records =
        Report.ofRecords (check options' source' filename').records →
      (check options source filename).records.map Record.told =
        (check options' source' filename').records.map Record.told) ∧
    ∀ rejection rejection', (check options source filename).accepted = .error rejection →
      (check options' source' filename').accepted = .error rejection' →
      rejection.message = rejection'.message →
      (check options source filename).records.map Record.told =
        (check options' source' filename').records.map Record.told := by
  have h := isTold_records options source filename
  have h' := isTold_records options' source' filename'
  refine ⟨fun r hr => ⟨(h r hr).line, (h r hr).message⟩, fun hnil => ?_, fun hne => ?_,
    map_told_eq_of_ofRecords_eq h h', fun rejection rejection' hr hr' he => ?_⟩
  · exact ⟨Outcome.accepted_of_nil hnil, by rw [hnil]; rfl⟩
  · exact ⟨⟨_, Outcome.accepted_of_ne_nil hne, splitOn_renderRecords h hne⟩,
      splitOn_ofRecords h hne⟩
  · obtain ⟨hne, rfl⟩ := Outcome.eq_of_accepted_eq_error hr
    obtain ⟨hne', rfl⟩ := Outcome.eq_of_accepted_eq_error hr'
    have hsplit := splitOn_renderRecords h hne
    have hsame : renderRecords (check options source filename).records =
        renderRecords (check options' source' filename').records := he
    rw [hsame, splitOn_renderRecords h' hne'] at hsplit
    exact map_told_eq_of_map_render_eq h h' hsplit.symm

/-- Two programs on one line, with the same report. A separator of lines stands in the one, and
blanks and a comment in the other. -/
theorem reports_lose_nothing_of_separator :
    (check {} "@\u2028x = 1;" "").records ≠ [] ∧
    (Report.ofRecords (check {} "@\u2028x = 1;" "").records).toList.splitOn '\n' =
      ["=== Errors ===".toList, "[Line 1] ERROR: Invalid character: '@'".toList,
       "[Line 1] ERROR: Variable 'x' is not declared.".toList] ∧
    (check {} "@\u2028x = 1;" "").records.map Record.told =
      (check {} "@ x = 2; // again" "").records.map Record.told := by
  have hrecords : (check {} "@\u2028x = 1;" "").records =
      [⟨.lexical, some 1, "Invalid character: '@'"⟩,
       ⟨.semantic, some 1, "Variable 'x' is not declared."⟩] := by decide +kernel
  have hrecords' : (check {} "@ x = 2; // again" "").records =
      [⟨.lexical, some 1, "Invalid character: '@'"⟩,
       ⟨.semantic, some 1, "Variable 'x' is not declared."⟩] := by decide +kernel
  have hne : (check {} "@\u2028x = 1;" "").records ≠ [] := by rw [hrecords]; decide
  obtain ⟨-, -, hlines, htold, -⟩ :=
    reports_lose_nothing {} {} "@\u2028x = 1;" "@ x = 2; // again" "" ""
  refine ⟨hne, ?_, htold (by rw [hrecords, hrecords'])⟩
  rw [(hlines hne).2, hrecords]
  rfl

end BlockLang
