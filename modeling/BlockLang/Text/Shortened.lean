/-! # Shortened texts

A text that is cut to a number of bytes in UTF-8. A character that the cut goes through becomes the
replacement character.

* `shortened`: the text that is left.
* `shortened_of_le`: a text that has no more bytes than that is left as it is. -/

namespace BlockLang.Text

/-- The number of bytes of a text in UTF-8. -/
def byteCount : List Char → Nat
  | [] => 0
  | c :: cs => c.utf8Size + byteCount cs

/-- A text cut to a number of bytes. -/
def shortened (bytes : Nat) : List Char → List Char
  | [] => []
  | c :: cs =>
    if c.utf8Size ≤ bytes then c :: shortened (bytes - c.utf8Size) cs
    else if bytes = 0 then []
    else ['\ufffd']

theorem shortened_of_le {bytes : Nat} {text : List Char} (h : byteCount text ≤ bytes) :
    shortened bytes text = text := by
  induction text generalizing bytes with
  | nil => rfl
  | cons c cs ih =>
    rw [byteCount] at h
    rw [shortened, if_pos (by omega), ih (by omega)]

end BlockLang.Text
