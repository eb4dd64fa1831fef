/-! # Tokens

A *token* is a classified piece of a program text with the line on which it starts. A token list
ends with a token of kind `endOfInput`.

* `TokenKind`: the ten kinds, and their names in reports.
* `typeKeywords`, `keywords`: the reserved words; a type keyword starts a declaration.
* `Token.render`: a token as one line of a report. -/

namespace BlockLang

/-- The kinds of tokens. -/
inductive TokenKind
  | keyword
  | identifier
  | number
  | operator
  | string
  | char
  | openBrace
  | closeBrace
  | semicolon
  | endOfInput
  deriving DecidableEq, Repr

namespace TokenKind

/-- All kinds, in the order in which reports list them. -/
def all : List TokenKind :=
  [keyword, identifier, number, operator, string, char, openBrace, closeBrace, semicolon,
   endOfInput]

/-- The name of a kind in reports. -/
def name : TokenKind → String
  | keyword => "KEYWORD"
  | identifier => "IDENTIFIER"
  | number => "NUMBER"
  | operator => "OPERATOR"
  | string => "STRING"
  | char => "CHAR"
  | openBrace => "LBRACE"
  | closeBrace => "RBRACE"
  | semicolon => "SEMICOLON"
  | endOfInput => "EOF"

/-- The kind with a given name. -/
def named? (text : String) : Option TokenKind := all.find? (·.name = text)

theorem named?_name (k : TokenKind) : named? k.name = some k := by cases k <;> decide

end TokenKind

/-- The keywords that start a declaration. -/
def typeKeywords : List String := ["bool", "char", "decimal", "int", "string"]

/-- The reserved words, in alphabetic order. -/
def keywords : List String :=
  ["bool", "char", "decimal", "else", "false", "for", "if", "input", "int", "output", "string",
   "true", "while"]

theorem typeKeywords_subset_keywords : typeKeywords ⊆ keywords := by decide

/-- A token: its kind, its text with escapes resolved, and the line on which it starts. -/
structure Token where
  kind : TokenKind
  lexeme : String
  line : Int
  deriving DecidableEq, Repr

namespace Token

/-- Whether a token starts a declaration. -/
def isTypeKeyword (t : Token) : Bool := t.kind = .keyword ∧ t.lexeme ∈ typeKeywords

/-- Whether a token is the operator `=`. -/
def isAssign (t : Token) : Bool := t.kind = .operator ∧ t.lexeme = "="

/-- A token as one line of a report (more than one only if the lexeme has line breaks). -/
def render (t : Token) : String :=
  t.kind.name ++ ":" ++ t.lexeme ++ " (Line " ++ toString t.line ++ ")"

end Token

end BlockLang
