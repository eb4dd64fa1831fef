import BlockLang.Diagnostic
import BlockLang.Text.DecimalDigit

/-! # Checks on number literals

Two rules on the text of a number: its fraction may not be longer than a limit, and an exponent
marker must be followed by an exponent. They are stated for any text, also one that no number
literal has.

* `fraction?`: the digits after the point.
* `endsInExponent`: the text is a single line up to some marker and an exponent from there on.
* `numberProblems`: what is wrong with a text as a number. -/

namespace BlockLang

/-- Whether a character marks an exponent. -/
def isExponentMarker (c : Char) : Bool := c = 'E' ∨ c = 'e'

/-- The text after the first point, up to the next exponent marker. -/
def fraction? (lexeme : List Char) : Option (List Char) :=
  match lexeme.dropWhile (· ≠ '.') with
  | [] => none
  | _ :: afterPoint => some (afterPoint.takeWhile fun c => !isExponentMarker c)

/-- Whether a text is one or more decimal digits. -/
def isDigits (cs : List Char) : Bool := !cs.isEmpty && cs.all Text.isDecimalDigit

/-- Whether a text is decimal digits, perhaps after a sign. -/
def isSignedDigits : List Char → Bool
  | [] => false
  | c :: cs => if c = '+' ∨ c = '-' then isDigits cs else isDigits (c :: cs)

/-- Whether a text is a marker and signed digits after some characters other than line feeds. -/
def endsInExponent : List Char → Bool
  | [] => false
  | c :: cs => (isExponentMarker c && isSignedDigits cs) || (c != '\n' && endsInExponent cs)

/-- Whether the fraction of a text has more characters than the limit. -/
def fractionExceeds (limit : Int) (lexeme : List Char) : Bool :=
  match fraction? lexeme with
  | some digits => limit < digits.length
  | none => false

/-- Whether a text has an exponent marker but does not end in an exponent. -/
def hasInvalidExponent (lexeme : List Char) : Bool :=
  lexeme.any isExponentMarker && !endsInExponent lexeme

/-- The problems of a text as a number. -/
def numberProblems (limit : Int) (lexeme : String) : List Problem :=
  (if fractionExceeds limit lexeme.toList then [.fractionTooLong limit lexeme] else []) ++
  (if hasInvalidExponent lexeme.toList then [.invalidExponent lexeme] else [])

end BlockLang
