import BlockLang.Lexing
import BlockLang.Proofs.Automaton.TokenClass

/-! # The order of the scan

The rules by which a program text is cut, without a word on how they are carried out.

* `ScanRule`: the nine rules in their order. `ScanRule.Applies` is told by the head of a text, and
  `ScanRule.IsFirst` is the first rule that applies.
* `ScanRule.Takes`: the segments that a rule takes, each with the rest that it leaves.
* `Segmentation`: a text cut into segments, each by the first rule that applies where it starts.
* `Tokenizes`: the tokens of some segments. A segment that is no blank, comment or invalid character
  is one token, which carries the line on which the segment starts. -/

namespace BlockLang

/-! ### Literals -/

/-- The inside of a string literal, without its marks, and its value. A backslash takes the
character after it. -/
inductive Quoted : List Char → List Char → Prop
  | nil : Quoted [] []
  | plain {c : Char} {body value : List Char} :
      c ≠ '"' → c ≠ '\\' → Quoted body value → Quoted (c :: body) (c :: value)
  | escape {c : Char} {body value : List Char} :
      Quoted body value → Quoted ('\\' :: c :: body) (unescape c :: value)

/-- One character or one escape, and the character that it stands for. -/
inductive Spells : List Char → Char → Prop
  | plain {c : Char} : c ≠ '\\' → Spells [c] c
  | escape {c : Char} : Spells ['\\', c] (unescape c)

/-! ### Rules -/

/-- The rules of the scan. -/
inductive ScanRule
  | blank
  | punctuation
  | comment
  | string
  | char
  | word
  | number
  | operator
  | invalid
  deriving DecidableEq, Repr

namespace ScanRule

/-- The order in which the rules are tried. -/
def order : List ScanRule :=
  [blank, punctuation, comment, string, char, word, number, operator, invalid]

/-- Whether a rule is tried before another one. -/
def Precedes (r r' : ScanRule) : Prop := order.idxOf r < order.idxOf r'

instance (r r' : ScanRule) : Decidable (r.Precedes r') := by unfold Precedes; infer_instance

/-- Whether a rule applies at the head of a text. -/
def Applies : ScanRule → List Char → Prop
  | blank, text => ∃ c ∈ text.head?, Text.isBlank c = true
  | punctuation, text => ∃ c ∈ text.head?, c ∈ ['{', '}', ';']
  | comment, text => ['/', '/'] <+: text ∨ ['/', '*'] <+: text
  | string, text => text.head? = some '"'
  | char, text => text.head? = some '\''
  | word, text => ∃ l, l <+: text ∧ IsWord l
  | number, text => ∃ l, l <+: text ∧ IsNumeral l
  | operator, text => ∃ l, l <+: text ∧ IsOperator l
  | invalid, text => text ≠ []

/-- The first rule that applies. -/
def IsFirst (r : ScanRule) (text : List Char) : Prop :=
  r.Applies text ∧ ∀ r' : ScanRule, r'.Precedes r → ¬ r'.Applies text

/-- A rule takes a segment, where the rest of the text comes after it. -/
inductive Takes : ScanRule → Segment → List Char → Prop
  | blank {c : Char} {rest : List Char} : Takes .blank ⟨.blank, [c]⟩ rest
  | openBrace {rest : List Char} : Takes .punctuation ⟨.openBrace, ['{']⟩ rest
  | closeBrace {rest : List Char} : Takes .punctuation ⟨.closeBrace, ['}']⟩ rest
  | semicolon {rest : List Char} : Takes .punctuation ⟨.semicolon, [';']⟩ rest
  | lineComment {body rest : List Char} : '\n' ∉ body → (∀ c ∈ rest.head?, c = '\n') →
      Takes .comment ⟨.lineComment, '/' :: '/' :: body⟩ rest
  | blockComment {body rest : List Char} : ¬ ['*', '/'] <:+: body ++ ['*'] →
      Takes .comment ⟨.blockComment true, '/' :: '*' :: (body ++ ['*', '/'])⟩ rest
  | openComment {body : List Char} : ¬ ['*', '/'] <:+: body →
      Takes .comment ⟨.blockComment false, '/' :: '*' :: body⟩ []
  | string {body value rest : List Char} : Quoted body value →
      Takes .string ⟨.string value true, '"' :: (body ++ ['"'])⟩ rest
  | openString {body value : List Char} : Quoted body value →
      Takes .string ⟨.string value false, '"' :: body⟩ []
  | openEscape {body value : List Char} : Quoted body value →
      Takes .string ⟨.string value false, '"' :: (body ++ ['\\'])⟩ []
  | char {piece rest : List Char} {c : Char} : Spells piece c →
      Takes .char ⟨.char [c] true, '\'' :: (piece ++ ['\''])⟩ rest
  | openChar {piece rest : List Char} {c : Char} : Spells piece c → rest.head? ≠ some '\'' →
      Takes .char ⟨.char [c] false, '\'' :: piece⟩ rest
  | emptyChar : Takes .char ⟨.char [] false, ['\'']⟩ []
  | emptyEscape : Takes .char ⟨.char [] false, ['\'', '\\']⟩ []
  | word {lexeme rest : List Char} : Longest IsWord lexeme rest → Takes .word ⟨.word, lexeme⟩ rest
  | number {lexeme rest : List Char} : Longest IsNumeral lexeme rest →
      Takes .number ⟨.number, lexeme⟩ rest
  | operator {lexeme rest : List Char} : Longest IsOperator lexeme rest →
      Takes .operator ⟨.operator, lexeme⟩ rest
  | invalid {c : Char} {rest : List Char} : Takes .invalid ⟨.invalid, [c]⟩ rest

end ScanRule

/-! ### Segments of a text -/

/-- A segment is what the first rule that applies takes from the head of a text. -/
def Segment.Heads (s : Segment) (rest : List Char) : Prop :=
  ∃ r : ScanRule, r.IsFirst (s.text ++ rest) ∧ r.Takes s rest

/-- **A text cut into segments in the order of the scan.** -/
inductive Segmentation : List Char → List Segment → Prop
  | nil : Segmentation [] []
  | cons {s : Segment} {rest : List Char} {segs : List Segment} :
      s.Heads rest → Segmentation rest segs → Segmentation (s.text ++ rest) (s :: segs)

/-! ### Tokens of some segments -/

namespace Segment

/-- Whether a segment is no token: a blank, a comment or an invalid character. -/
def IsSkipped (s : Segment) : Prop :=
  s.shape = .blank ∨ s.shape = .lineComment ∨ (∃ closed, s.shape = .blockComment closed) ∨
    s.shape = .invalid

/-- The kind and the lexeme of the token that a segment is. A literal has its value as lexeme, and
every other token the text of the segment. -/
inductive Denotes : Segment → TokenKind → List Char → Prop
  | openBrace {text : List Char} : Denotes ⟨.openBrace, text⟩ .openBrace text
  | closeBrace {text : List Char} : Denotes ⟨.closeBrace, text⟩ .closeBrace text
  | semicolon {text : List Char} : Denotes ⟨.semicolon, text⟩ .semicolon text
  | string {value text : List Char} {closed : Bool} :
      Denotes ⟨.string value closed, text⟩ .string value
  | char {value text : List Char} {closed : Bool} : Denotes ⟨.char value closed, text⟩ .char value
  | keyword {text : List Char} : String.ofList text ∈ keywords →
      Denotes ⟨.word, text⟩ .keyword text
  | identifier {text : List Char} : String.ofList text ∉ keywords →
      Denotes ⟨.word, text⟩ .identifier text
  | number {text : List Char} : Denotes ⟨.number, text⟩ .number text
  | operator {text : List Char} : Denotes ⟨.operator, text⟩ .operator text

end Segment

/-- **The tokens of some segments** that come after the text `before`, with the end of input. -/
inductive Tokenizes : List Char → List Segment → List Token → Prop
  | endOfInput {before : List Char} :
      Tokenizes before [] [⟨.endOfInput, "", 1 + before.count '\n'⟩]
  | skip {before : List Char} {s : Segment} {segs : List Segment} {tokens : List Token} :
      s.IsSkipped → Tokenizes (before ++ s.text) segs tokens → Tokenizes before (s :: segs) tokens
  | token {before lexeme : List Char} {s : Segment} {segs : List Segment} {tokens : List Token}
      {kind : TokenKind} : s.Denotes kind lexeme → Tokenizes (before ++ s.text) segs tokens →
      Tokenizes before (s :: segs)
        (⟨kind, String.ofList lexeme, 1 + before.count '\n'⟩ :: tokens)

end BlockLang
