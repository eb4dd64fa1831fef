import BlockLang.Encoding.DomainName.Prepare
import BlockLang.Encoding.Punycode

/-! # Domain names

A domain name is a sequence of labels with full stops between them. A label is ASCII, or it starts
with `xn--` and goes on with the Punycode of a text in prepared form.

* `encodeLabel`: a label in ASCII.
* `decodeLabel`: the text of a label, which has to be the only one that is encoded like this.
* `decode`: the text of a domain name. -/

namespace BlockLang.DomainName

/-- The start of a label that is encoded. -/
def mark : List Char := ['x', 'n', '-', '-']

/-- Whether all code points of a text are ASCII. -/
def isAscii (label : List Nat) : Bool := label.all (· < 0x80)

/-- A label, if it is neither empty nor longer than labels can be. -/
def ofFitLength (label : List Char) : Except LabelFault (List Char) :=
  if 0 < label.length ∧ label.length < 64 then .ok label else .error .badLength

/-- A label in ASCII. One that is ASCII already is not prepared. -/
def encodeLabel (label : List Nat) : Except LabelFault (List Char) :=
  if isAscii label then ofFitLength (label.map Char.ofNat)
  else
    match prepare label with
    | .error fault => .error fault
    | .ok form =>
      if isAscii form then ofFitLength (form.map Char.ofNat)
      else if (mark.map Char.toNat).isPrefixOf form then .error .encodedTwice
      else ofFitLength (mark ++ Punycode.encode form)

/-- Checks that a text is encoded as a given label. Capital letters count as small ones there. -/
def checkLabel (label : List Char) (text : List Nat) : Decoded :=
  match encodeLabel text with
  | .error fault => .error (.label fault)
  | .ok expected =>
    if label.map Char.toLower = expected.map Char.toLower then Decoding.ofNumbers text
    else .error (.label (.otherwiseEncoded (String.ofList label) (String.ofList expected)))

/-- The text that a label stands for. -/
def decodeLabel (label : List Char) : Decoded :=
  match mark.isPrefixOf? label with
  | none => .ok label
  | some encoded =>
    match Punycode.decodePoints (encoded.map fun c => c.toNat.toUInt8) with
    | .error cause => .error (.badLabel cause)
    | .ok text => checkLabel label text

/-- The text that some labels stand for, one after the other. The characters of the label at hand
are given backwards. -/
def decodeLabels (label : List Char) : List Char → Decoded
  | [] => decodeLabel label.reverse
  | c :: cs =>
    if c = '.' then
      (decodeLabel label.reverse).bind fun text => (decodeLabels [] cs).after (text ++ ['.'])
    else decodeLabels (c :: label) cs

/-- The text that a domain name in ASCII stands for. -/
def decode (name : List Char) : Decoded := decodeLabels [] name

end BlockLang.DomainName
