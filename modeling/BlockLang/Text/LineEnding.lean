/-! # Line endings

A text file may end its lines with a line feed, a carriage return or both; a program text has line
feeds only. -/

namespace BlockLang.Text

/-- Turns every carriage return, with the line feed after it if there is one, into a line feed. -/
def withLineFeeds : List Char → List Char
  | [] => []
  | '\r' :: '\n' :: cs => '\n' :: withLineFeeds cs
  | c :: cs => (if c = '\r' then '\n' else c) :: withLineFeeds cs

theorem carriageReturn_notMem_withLineFeeds (cs : List Char) : '\r' ∉ withLineFeeds cs := by
  fun_induction withLineFeeds cs with
  | case1 => simp
  | case2 cs ih => simp [ih]
  | case3 c cs _ ih => by_cases h : c = '\r' <;> simp [h, ih, eq_comm]

end BlockLang.Text
