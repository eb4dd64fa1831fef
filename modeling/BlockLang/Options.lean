import BlockLang.Encoding.Name
import BlockLang.Event
import BlockLang.Text.Integer

/-! # Options

The options of a run and the environment variables that set them. A variable that is unset or empty
sets nothing; one that cannot be used is ignored with a warning.

* `Options`: the options and their defaults.
* `Environment`: the texts of the variables; `NullCharacter`: why they cannot be set.
* `Environment.options`, `Environment.warnings`: what they set, and what is ignored.

The value of a variable is a text. A variable with bytes that are no text, which the system can hold
too, is not represented; the lookup of such a value as the name of an encoding fails. -/

namespace BlockLang

/-- The options of a run: how many digits a fraction may have, and the encoding of files. -/
structure Options where
  maxFractionDigits : Int := 5
  encoding : String := "utf-8"
  deriving DecidableEq, Repr

/-- The variables that set options. -/
structure Environment where
  fractionDigits : Option String := none
  encoding : Option String := none
  deriving DecidableEq, Repr

/-- The failure of giving the system a text with a null character, which ends texts there. -/
structure NullCharacter where
  deriving DecidableEq, Repr

/-- The wording of this failure. -/
def NullCharacter.message (_ : NullCharacter) : String := "embedded null byte"

/-- The variables as the system can hold them. -/
def Environment.set (env : Environment) : Except NullCharacter Environment :=
  if [env.fractionDigits, env.encoding].any (·.any (·.contains '\x00')) then .error ⟨⟩ else .ok env

/-- The text of a variable, if it is set and not empty. -/
def Environment.given? (setting : Option String) : Option String := setting.filter (· ≠ "")

/-- The limit that a text sets: a number that is not negative. -/
def readLimit (text : String) : Option Int := (Text.readInteger text).filter (0 ≤ ·)

namespace Environment

/-- The options that the variables set. -/
def options (env : Environment) : Options where
  maxFractionDigits := ((given? env.fractionDigits).bind readLimit).getD 5
  encoding := ((given? env.encoding).filter fun name => (Codec.named? name).isSome).getD "utf-8"

/-- The warnings about variables that are ignored. -/
def warnings (env : Environment) : List Event :=
  (match given? env.fractionDigits with
    | some text => if (readLimit text).isSome then [] else [.ignoredLimit text]
    | none => []) ++
  (match given? env.encoding with
    | some name => if (Codec.named? name).isSome then [] else [.ignoredEncoding name]
    | none => [])

end Environment

end BlockLang
