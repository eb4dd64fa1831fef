import BlockLang.Automaton.Lexical
import BlockLang.Text.Blank

/-! # Segments of a program text

A program text is cut from left to right into *segments*: blanks, punctuation, comments, literals,
words, numbers, operators and characters that begin nothing. The first rule that applies to the
next character decides, and the longest match is taken.

* `Shape`: what a segment is; a literal holds its value, and what can be left open says whether it
  is closed.
* `classify`: the shape of the segment at the head of a text and how much of the text it takes.
* `segments`: a text as a list of segments. Each takes at least one character
  (`text_ne_nil_of_mem_segments`), and together they are the text (`flatten_segments`). -/

namespace BlockLang

/-- What a segment is. -/
inductive Shape
  | blank
  | openBrace
  | closeBrace
  | semicolon
  | lineComment
  | blockComment (closed : Bool)
  | string (value : List Char) (closed : Bool)
  | char (value : List Char) (closed : Bool)
  | word
  | number
  | operator
  | invalid
  deriving DecidableEq, Repr

/-- A segment: its shape and the characters it takes. -/
structure Segment where
  shape : Shape
  text : List Char
  deriving DecidableEq, Repr

/-! ### Comments and literals

The functions of this section read what follows the opening of a comment or literal. -/

/-- The length of a block comment's text up to and including the first `*/`. -/
def blockEnd? : List Char → Option Nat
  | [] => none
  | '*' :: '/' :: _ => some 2
  | _ :: cs => (blockEnd? cs).map (· + 1)

/-- The character that an escaped character stands for: the line feed, tab and carriage return have
letters, and every other character stands for itself. -/
def unescape (c : Char) : Char :=
  if c = 'n' then '\n' else if c = 't' then '\t' else if c = 'r' then '\r' else c

/-- The inside of a literal: its value, its length with the closing mark, and whether the mark is
there. -/
structure LiteralBody where
  value : List Char
  length : Nat
  closed : Bool
  deriving DecidableEq, Repr

/-- A body with some more characters before it, which stand for `value`. -/
def LiteralBody.after (value : List Char) (length : Nat) (body : LiteralBody) : LiteralBody :=
  ⟨value ++ body.value, length + body.length, body.closed⟩

/-- The inside of a string literal, up to the first `"` that is not escaped or to the end. A
backslash at the end stands for nothing. -/
def stringBody : List Char → LiteralBody
  | [] => ⟨[], 0, false⟩
  | '"' :: _ => ⟨[], 1, true⟩
  | ['\\'] => ⟨[], 1, false⟩
  | '\\' :: c :: cs => (stringBody cs).after [unescape c] 2
  | c :: cs => (stringBody cs).after [c] 1

/-- The end of a character literal: a closing mark, if it comes next. -/
def charEnd : List Char → LiteralBody
  | '\'' :: _ => ⟨[], 1, true⟩
  | _ => ⟨[], 0, false⟩

/-- The inside of a character literal: one character or one escape, and the closing mark if it
comes next. -/
def charBody : List Char → LiteralBody
  | [] => ⟨[], 0, false⟩
  | ['\\'] => ⟨[], 1, false⟩
  | '\\' :: c :: cs => (charEnd cs).after [unescape c] 2
  | c :: cs => (charEnd cs).after [c] 1

/-! ### One segment -/

/-- The shape of the segment that starts with `c`, and how many of the characters after `c` belong
to it, where `c` starts no blank, punctuation, comment or literal. -/
def classifyMatch (c : Char) (rest : List Char) : Shape × Nat :=
  match Automaton.identifier.longestMatch (c :: rest) with
  | n + 1 => (.word, n)
  | 0 =>
    match Automaton.number.longestMatch (c :: rest) with
    | n + 1 => (.number, n)
    | 0 =>
      match Automaton.operator.longestMatch (c :: rest) with
      | n + 1 => (.operator, n)
      | 0 => (.invalid, 0)

/-- The shape of the segment that starts with `/` and is a comment, and how many of the characters
after the `/` belong to it. -/
def classifyComment? : List Char → Option (Shape × Nat)
  | '/' :: cs => some (.lineComment, 1 + (cs.takeWhile (· ≠ '\n')).length)
  | '*' :: cs =>
    match blockEnd? cs with
    | some n => some (.blockComment true, 1 + n)
    | none => some (.blockComment false, 1 + cs.length)
  | _ => none

/-- The shape of the segment that starts with `c`, and how many of the characters after `c` belong
to it. -/
def classify (c : Char) (rest : List Char) : Shape × Nat :=
  if Text.isBlank c then (.blank, 0)
  else if c = '{' then (.openBrace, 0)
  else if c = '}' then (.closeBrace, 0)
  else if c = ';' then (.semicolon, 0)
  else if c = '/' then (classifyComment? rest).getD (classifyMatch c rest)
  else if c = '"' then
    let body := stringBody rest
    (.string body.value body.closed, body.length)
  else if c = '\'' then
    let body := charBody rest
    (.char body.value body.closed, body.length)
  else classifyMatch c rest

/-! ### All segments -/

/-- The segments of a text. -/
def segments : List Char → List Segment
  | [] => []
  | c :: rest =>
    let (shape, n) := classify c rest
    ⟨shape, c :: rest.take n⟩ :: segments (rest.drop n)
termination_by text => text.length
decreasing_by simp only [List.length_drop, List.length_cons]; omega

theorem segments_cons (c : Char) (rest : List Char) :
    segments (c :: rest) = ⟨(classify c rest).1, c :: rest.take (classify c rest).2⟩ ::
      segments (rest.drop (classify c rest).2) := by
  rw [segments]

/-- **No character is lost or read twice.** -/
theorem flatten_segments (text : List Char) :
    ((segments text).map Segment.text).flatten = text := by
  induction h : text.length using Nat.strongRecOn generalizing text with
  | ind n ih =>
    cases text with
    | nil => simp [segments]
    | cons c rest =>
      have hr := ih (rest.drop (classify c rest).2).length
        (by rw [← h, List.length_drop, List.length_cons]; omega) _ rfl
      rw [segments_cons, List.map_cons, List.flatten_cons, hr, List.cons_append,
        List.take_append_drop]

theorem text_ne_nil_of_mem_segments {text : List Char} {s : Segment} (h : s ∈ segments text) :
    s.text ≠ [] := by
  induction hn : text.length using Nat.strongRecOn generalizing text with
  | ind n ih =>
    cases text with
    | nil => simp [segments] at h
    | cons c rest =>
      rw [segments_cons, List.mem_cons] at h
      rcases h with rfl | h
      · exact List.cons_ne_nil _ _
      · exact ih _ (by rw [← hn, List.length_drop, List.length_cons]; omega) h rfl

end BlockLang
