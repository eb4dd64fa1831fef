import BlockLang.Text.Printable

/-! # Quoted texts

The written form of a text inside messages: between quotation marks, with the marks, backslashes
and characters that cannot be printed escaped.

* `quotationMark`: `'`, or `"` for a text that has `'` and no `"`.
* `escape`: what stands for one character between the marks.
* `quoted`: the whole written form.
* `quotedCode`: the written form of a single code point. -/

namespace BlockLang.Text

/-- The mark put around a text: `"` if the text has a `'` and no `"`, and `'` otherwise. -/
def quotationMark (text : List Char) : Char :=
  if '\'' ∈ text ∧ '"' ∉ text then '"' else '\''

/-- The last `width` hexadecimal digits of a number, in lower case. -/
def hexDigits : Nat → Nat → List Char
  | 0, _ => []
  | width + 1, n => hexDigits width (n / 16) ++ [Nat.digitChar (n % 16)]

/-- What stands for the character `c` between two marks `mark`. -/
def escape (mark c : Char) : List Char :=
  if c = mark ∨ c = '\\' then ['\\', c]
  else if c = '\n' then ['\\', 'n']
  else if c = '\r' then ['\\', 'r']
  else if c = '\t' then ['\\', 't']
  else if isPrintable c then [c]
  else if c.toNat < 0x100 then '\\' :: 'x' :: hexDigits 2 c.toNat
  else if c.toNat < 0x10000 then '\\' :: 'u' :: hexDigits 4 c.toNat
  else '\\' :: 'U' :: hexDigits 8 c.toNat

/-- The written form of a text. -/
def quoted (text : String) : String :=
  let mark := quotationMark text.toList
  String.ofList (mark :: text.toList.flatMap (escape mark) ++ [mark])

/-- The written form of a text of one code point, which may be half a character. -/
def quotedCode (n : Nat) : String :=
  if n.isValidChar then quoted (Char.ofNat n).toString
  else "'\\u" ++ String.ofList (hexDigits 4 n) ++ "'"

end BlockLang.Text
