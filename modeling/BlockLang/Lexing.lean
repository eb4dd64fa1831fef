import BlockLang.NumberLiteral
import BlockLang.Segment
import BlockLang.Token

/-! # Tokens of a program text

A segment is a token, or nothing (blanks, comments, invalid characters), and has its own lexical
problems. Tokens and findings carry the line on which their segment starts.

* `Segment.token?`, `Segment.problems`: what one segment gives.
* `tokensFrom`, `findingsFrom`: what a list of segments gives from a line on.
* `tokenize`, `lexicalFindings`: the same for a whole text. -/

namespace BlockLang

/-- The number of lines that end in a text. -/
def lineBreaks (text : List Char) : Nat := text.count '\n'

/-- The kind of a word. -/
def wordKind (lexeme : String) : TokenKind := if lexeme ∈ keywords then .keyword else .identifier

namespace Segment

/-- The text of a segment as a string. -/
def lexeme (s : Segment) : String := String.ofList s.text

/-- The kind and the text of the token that a segment is, if it is one. -/
def content? (s : Segment) : Option (TokenKind × String) :=
  match s.shape with
  | .blank | .lineComment | .blockComment _ | .invalid => none
  | .openBrace => some (.openBrace, s.lexeme)
  | .closeBrace => some (.closeBrace, s.lexeme)
  | .semicolon => some (.semicolon, s.lexeme)
  | .string value _ => some (.string, String.ofList value)
  | .char value _ => some (.char, String.ofList value)
  | .word => some (wordKind s.lexeme, s.lexeme)
  | .number => some (.number, s.lexeme)
  | .operator => some (.operator, s.lexeme)

/-- The token that a segment on a given line is, if it is one. -/
def token? (line : Int) (s : Segment) : Option Token :=
  s.content?.map fun (kind, lexeme) => ⟨kind, lexeme, line⟩

/-- The lexical problems of a segment, under a limit on the digits of a fraction. -/
def problems (limit : Int) (s : Segment) : List Problem :=
  match s.shape with
  | .blockComment false => [.unclosedComment]
  | .string _ false => [.unclosedString]
  | .char _ false => [.unclosedCharacter]
  | .number => numberProblems limit s.lexeme
  | .invalid => s.text.map .invalidCharacter
  | _ => []

end Segment

/-- The tokens of some segments that start on a given line, with the end of input. -/
def tokensFrom (line : Int) : List Segment → List Token
  | [] => [⟨.endOfInput, "", line⟩]
  | s :: rest => (s.token? line).toList ++ tokensFrom (line + lineBreaks s.text) rest

/-- The lexical findings on some segments that start on a given line. -/
def findingsFrom (limit line : Int) : List Segment → List Finding
  | [] => []
  | s :: rest =>
    (s.problems limit).map (⟨line, ·⟩) ++ findingsFrom limit (line + lineBreaks s.text) rest

/-- The tokens of a program text. -/
def tokenize (source : String) : List Token := tokensFrom 1 (segments source.toList)

/-- The lexical findings on a program text. -/
def lexicalFindings (limit : Int) (source : String) : List Finding :=
  findingsFrom limit 1 (segments source.toList)

end BlockLang
