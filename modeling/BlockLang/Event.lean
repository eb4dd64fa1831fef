import BlockLang.Text.Quoted

/-! # Events

What a run tells in its log. Every event has a level, a channel (the part of the program that it
comes from) and a message. -/

namespace BlockLang

/-- How much an event matters. -/
inductive Level
  | debug
  | info
  | warning
  deriving DecidableEq, Repr

/-- The name of a level in logs. -/
def Level.name : Level → String
  | debug => "DEBUG"
  | info => "INFO"
  | warning => "WARNING"

/-- What can happen in a run. -/
inductive Event
  | lexing (filename : String)
  | tokenized (count : Nat)
  | checking (filename : String) (count : Nat)
  | enteredScope (depth : Nat)
  | exitedScope (depth size : Nat)
  | declared (name label : String)
  | finished (filename : String) (tokens errors : Nat)
  | ignoredLimit (text : String)
  | ignoredEncoding (text : String)
  | configured (limit : Int) (encoding : String)
  deriving DecidableEq, Repr

namespace Event

/-- The level of an event. -/
def level : Event → Level
  | finished _ _ _ => .info
  | ignoredLimit _ | ignoredEncoding _ => .warning
  | _ => .debug

/-- The channel of an event. -/
def channel : Event → String
  | lexing _ | checking _ _ | finished _ _ _ => "tinylang.compiler"
  | tokenized _ => "tinylang.lexer"
  | enteredScope _ | exitedScope _ _ => "tinylang.symbols"
  | declared _ _ => "tinylang.checker"
  | ignoredLimit _ | ignoredEncoding _ => "tinylang.config"
  | configured _ _ => "tinylang.cli.tlc"

/-- The message of an event. -/
def message : Event → String
  | lexing filename => "lexing " ++ filename
  | tokenized count => "Total tokens: " ++ toString count
  | checking filename count => "checking " ++ filename ++ " (" ++ toString count ++ " tokens)"
  | enteredScope depth => "enter scope (depth " ++ toString depth ++ ")"
  | exitedScope depth size =>
      "exit scope (depth " ++ toString depth ++ ", " ++ toString size ++ " symbols)"
  | declared name label => "declared " ++ name ++ " as " ++ label
  | finished filename tokens errors =>
      filename ++ ": " ++ toString tokens ++ " tokens, " ++ toString errors ++ " errors"
  | ignoredLimit text => "ignoring invalid TINYLANG_MAX_FRACTION_DIGITS=" ++ Text.quoted text
  | ignoredEncoding text => "ignoring unknown TINYLANG_ENCODING=" ++ Text.quoted text
  | configured limit encoding =>
      "options: CompilerOptions(max_fraction_digits=" ++ toString limit ++ ", encoding=" ++
        Text.quoted encoding ++ ")"

end Event

end BlockLang
