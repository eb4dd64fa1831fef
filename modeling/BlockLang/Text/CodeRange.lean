/-! # Ranges of code points

A property of characters is written down as a list of closed ranges of code points. -/

namespace BlockLang.Text

/-- The code points from `first` to `last`, both included. -/
structure CodeRange where
  first : Nat
  last : Nat

/-- Whether a code point lies in a range. -/
def CodeRange.covers (r : CodeRange) (n : Nat) : Bool := r.first ≤ n && n ≤ r.last

/-- Whether a code point lies in one of some ranges. -/
def CodeRange.anyCovers (rs : List CodeRange) (n : Nat) : Bool := rs.any (·.covers n)

/-- Whether a character lies in a range. -/
def CodeRange.contains (r : CodeRange) (c : Char) : Bool := r.covers c.toNat

/-- Whether a character lies in one of some ranges. -/
def CodeRange.anyContains (rs : List CodeRange) (c : Char) : Bool := rs.any (·.contains c)

end BlockLang.Text
