import BlockLang.Automaton.Basic

/-! # The automata of the language

The three classes of tokens of variable length, as automata:

* `identifier`: one or more lower-case letters;
* `number`: digits, perhaps a point and digits, perhaps an exponent;
* `operator`: one of `+ - * / % < > = !`, perhaps with `=` after it. -/

namespace BlockLang.Automaton

/-- The ASCII lower-case letters. -/
def isLetter (s : Symbol) : Bool := 'a'.toNat ≤ s.val && s.val ≤ 'z'.toNat

/-- The ASCII digits. -/
def isDigit (s : Symbol) : Bool := '0'.toNat ≤ s.val && s.val ≤ '9'.toNat

/-- The characters that can start an operator. -/
def operatorChars : List Char := ['+', '-', '*', '/', '%', '<', '>', '=', '!']

/-- Whether a symbol is one of some characters. -/
def isOneOf (cs : List Char) (s : Symbol) : Bool := cs.any (·.toNat = s.val)

/-- One or more lower-case letters. -/
def identifier : Automaton where
  name := "identifier"
  start := 0
  nodes :=
    [⟨false, fun s => if isLetter s then some 1 else none⟩,
     ⟨true, fun s => if isLetter s then some 1 else none⟩]

/-- Digits, perhaps a point and digits, perhaps an exponent. The states are: the start, the whole
part, the point, the fraction, the exponent marker, its sign, its digits. -/
def number : Automaton where
  name := "number"
  start := 0
  nodes :=
    [⟨false, fun s => if isDigit s then some 1 else none⟩,
     ⟨true, fun s =>
       if isDigit s then some 1 else if isOneOf ['.'] s then some 2
       else if isOneOf ['E', 'e'] s then some 4 else none⟩,
     ⟨false, fun s => if isDigit s then some 3 else none⟩,
     ⟨true, fun s =>
       if isDigit s then some 3 else if isOneOf ['E', 'e'] s then some 4 else none⟩,
     ⟨false, fun s =>
       if isDigit s then some 6 else if isOneOf ['+', '-'] s then some 5 else none⟩,
     ⟨false, fun s => if isDigit s then some 6 else none⟩,
     ⟨true, fun s => if isDigit s then some 6 else none⟩]

/-- A single operator sign, perhaps with `=` after it. -/
def operator : Automaton where
  name := "operator"
  start := 0
  nodes :=
    [⟨false, fun s => if isOneOf operatorChars s then some 1 else none⟩,
     ⟨true, fun s => if isOneOf ['='] s then some 2 else none⟩,
     ⟨true, fun _ => none⟩]

/-- The automata of the language, in the order in which they are tried. -/
def lexical : List Automaton := [identifier, number, operator]

end BlockLang.Automaton
