/-! # Code pages

A code page gives every byte a character, or none. Most code pages are told by how they differ from
another one. -/

namespace BlockLang

/-- A code page: the characters of the 256 bytes. The noncharacter `U+FFFE` stands for none. -/
structure CodePage where
  chars : Array Char
  deriving DecidableEq, Repr

namespace CodePage

/-- The character of a byte, if it has one. -/
def char? (p : CodePage) (b : UInt8) : Option Char :=
  (p.chars[b.toNat]?).filter (· ≠ '\ufffe')

/-- The code page in which every byte is the code point with its number. -/
def latin1 : CodePage := ⟨((List.range 256).map Char.ofNat).toArray⟩

/-- A code page with other characters for the bytes from `start` on. -/
def patch (start : Nat) (text : String) (p : CodePage) : CodePage :=
  ⟨(text.toList.zipIdx start).foldl (fun chars (c, i) => chars.setIfInBounds i c) p.chars⟩

end CodePage

end BlockLang
