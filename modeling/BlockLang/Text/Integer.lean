import BlockLang.Text.Blank
import BlockLang.Text.DecimalDigit

/-! # Written integers

`readInteger` reads the integers that settings hold: optional padding, an optional sign, and
decimal digits of any script with at most one underscore between two of them. Numbers of more than
`maxDigits` digits are refused, leading zeros included. -/

namespace BlockLang.Text

/-- The longest number that is read. -/
def maxDigits : Nat := 4300

/-- The blanks that may surround a number: all but the ASCII information separators. -/
def isPadding (c : Char) : Bool := isBlank c && !(0x1c ≤ c.toNat && c.toNat ≤ 0x1f)

/-- The characters between the padding at both ends. -/
def unpadded (cs : List Char) : List Char :=
  ((cs.dropWhile isPadding).reverse.dropWhile isPadding).reverse

/-- The digits of a non-empty run of digits with single underscores inside it. -/
def readDigits : List Char → Option (List Nat)
  | [] => none
  | [c] => (digitValue? c).map ([·])
  | c :: '_' :: cs => return (← digitValue? c) :: (← readDigits cs)
  | c :: cs => return (← digitValue? c) :: (← readDigits cs)

/-- The number with some decimal digits, the most significant first. -/
def ofDigits (ds : List Nat) : Nat := ds.foldl (fun n d => 10 * n + d) 0

/-- The natural number that an unsigned run of digits stands for. -/
def readNatural (cs : List Char) : Option Nat :=
  (readDigits cs).bind fun ds => if ds.length ≤ maxDigits then some (ofDigits ds) else none

/-- The integer that a text stands for, if it is a number. -/
def readInteger (text : String) : Option Int :=
  match unpadded text.toList with
  | '+' :: cs => (readNatural cs).map Int.ofNat
  | '-' :: cs => (readNatural cs).map fun n => -(n : Int)
  | cs => (readNatural cs).map Int.ofNat

end BlockLang.Text
