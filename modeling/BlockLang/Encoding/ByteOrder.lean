/-! # Byte orders -/

namespace BlockLang

/-- The orders in which the bytes of a number can be written: the least significant byte first, or
the most significant one. -/
inductive ByteOrder
  | little
  | big
  deriving DecidableEq, Repr

namespace ByteOrder

/-- The ending of the name of an encoding with a given byte order. -/
def suffix : ByteOrder → String
  | little => "-le"
  | big => "-be"

/-- The number that some bytes make. -/
def value (order : ByteOrder) (bytes : List UInt8) : Nat :=
  let ordered : List UInt8 :=
    match order with
    | little => bytes.reverse
    | big => bytes
  ordered.foldl (fun n b => 256 * n + b.toNat) 0

end ByteOrder

end BlockLang
