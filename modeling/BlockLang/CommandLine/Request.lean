import BlockLang.SourceFile
import BlockLang.Text.Similarity

/-! # Command lines

Arguments are read from left to right. Options and the file may come in any order, `--` ends the
options, and the last value of an option counts. The first error in the form of the options is
reported before any value is looked at.

* `Request`: what the arguments ask for, with the values as they are written.
* `Request.parse`: the request of some arguments.
* `Request.order`: the order that a request gives once its values are checked, an `Order`.
* `UsageError`: what can be wrong, and how it is told.
* `Obstacle`: what keeps a request from giving an order. -/

namespace BlockLang.CommandLine

/-- The options without a value that change what is shown. -/
inductive Switch
  | tokens
  | symbols
  | automata
  | verbose
  deriving DecidableEq, Repr

/-- The options that are answered at once. -/
inductive Notice
  | help
  | version
  deriving DecidableEq, Repr

/-- What a long option stands for. -/
inductive OptionName
  | switch (s : Switch)
  | notice (n : Notice)
  | limit
  deriving DecidableEq, Repr

/-- The long options. -/
def longOptions : List (String × OptionName) :=
  [("--tokens", .switch .tokens), ("--symbols", .switch .symbols),
   ("--automata", .switch .automata), ("--max-fraction-digits", .limit),
   ("--verbose", .switch .verbose), ("--version", .notice .version), ("--help", .notice .help)]

/-- The short options. -/
def shortOptions : List (Char × Switch) := [('v', .verbose)]

/-- What can be wrong with some arguments. -/
inductive UsageError
  | noSuchOption (name : String) (similar : List String)
  | unwantedValue (name : String)
  | missingValue (name : String)
  | notAnInteger (text : String)
  | negativeLimit (n : Int)
  | missingFile
  | fileNotFound (path : String)
  | fileIsDirectory (path : String)
  | extraArguments (arguments : List String)
  deriving DecidableEq, Repr

namespace UsageError

/-- The wording of a usage error. -/
def message : UsageError → String
  | noSuchOption name [] => "No such option: " ++ name
  | noSuchOption name [similar] => "No such option: " ++ name ++ " Did you mean " ++ similar ++ "?"
  | noSuchOption name similar =>
      "No such option: " ++ name ++ " (Possible options: " ++ ", ".intercalate similar ++ ")"
  | unwantedValue name => "Option " ++ Text.quoted name ++ " does not take a value."
  | missingValue name => "Option " ++ Text.quoted name ++ " requires an argument."
  | notAnInteger text => "Invalid value for '--max-fraction-digits': " ++ Text.quoted text ++
      " is not a valid integer range."
  | negativeLimit n => "Invalid value for '--max-fraction-digits': " ++ toString n ++
      " is not in the range x>=0."
  | missingFile => "Missing argument 'INPUT_FILE'."
  | fileNotFound path =>
      "Invalid value for 'INPUT_FILE': File " ++ Text.quoted path ++ " does not exist."
  | fileIsDirectory path =>
      "Invalid value for 'INPUT_FILE': File " ++ Text.quoted path ++ " is a directory."
  | extraArguments arguments =>
      "Got unexpected extra argument" ++ (if arguments.length = 1 then "" else "s") ++ " (" ++
        " ".intercalate arguments ++ ")"

/-- Whether the usage is shown above an error. -/
def showsUsage : UsageError → Bool
  | unwantedValue _ | missingValue _ => false
  | _ => true

end UsageError

/-- What some arguments ask for. -/
structure Request where
  switches : List Switch := []
  limit : Option String := none
  notice : Option Notice := none
  arguments : List String := []
  deriving DecidableEq, Repr

/-- What one argument is. -/
inductive Item
  | endOfOptions
  | argument (text : String)
  | switches (ss : List Switch)
  | notice (n : Notice)
  | limit (value : Option String)
  deriving DecidableEq, Repr

/-- The switches of a group of short options. -/
def shortSwitches : List Char → Except UsageError (List Switch)
  | [] => .ok []
  | c :: cs =>
    match shortOptions.lookup c with
    | some s => (shortSwitches cs).map (s :: ·)
    | none => .error (.noSuchOption (String.ofList ['-', c]) [])

/-- The name of a long option, and the value that is attached to it with `=`. -/
def splitOption (text : List Char) : String × Option String :=
  (String.ofList (text.takeWhile (· ≠ '=')),
    match text.dropWhile (· ≠ '=') with
    | [] => none
    | _ :: value => some (String.ofList value))

/-- What an argument is that starts with a hyphen and does not end the options. An unknown name with
one hyphen is a group of short options. -/
def readOption (text : List Char) : Except UsageError Item :=
  let (name, value) := splitOption text
  match longOptions.lookup name, value with
  | some .limit, value => .ok (.limit value)
  | some (.switch s), none => .ok (.switches [s])
  | some (.notice n), none => .ok (.notice n)
  | some _, some _ => .error (.unwantedValue name)
  | none, _ =>
    if ['-', '-'].isPrefixOf text then
      .error (.noSuchOption name (Text.closeMatches name (longOptions.map Prod.fst)))
    else (shortSwitches text.tail).map .switches

/-- What an argument is. A lone hyphen is no option. -/
def readItem (text : String) : Except UsageError Item :=
  match text.toList with
  | ['-', '-'] => .ok .endOfOptions
  | '-' :: c :: cs => readOption ('-' :: c :: cs)
  | _ => .ok (.argument text)

namespace Request

/-- The request of some arguments that follow those of another request. -/
def parseAfter (r : Request) : List String → Except UsageError Request
  | [] => .ok r
  | text :: rest =>
    match readItem text with
    | .error e => .error e
    | .ok .endOfOptions => .ok { r with arguments := r.arguments ++ rest }
    | .ok (.argument a) => { r with arguments := r.arguments ++ [a] }.parseAfter rest
    | .ok (.switches ss) => { r with switches := r.switches ++ ss }.parseAfter rest
    | .ok (.notice n) => { r with notice := r.notice.or (some n) }.parseAfter rest
    | .ok (.limit (some value)) => { r with limit := some value }.parseAfter rest
    | .ok (.limit none) =>
      match rest with
      | [] => .error (.missingValue text)
      | value :: rest => { r with limit := some value }.parseAfter rest

/-- The request of some arguments. -/
def parse (arguments : List String) : Except UsageError Request := parseAfter {} arguments

/-- Whether a switch is on. -/
def has (r : Request) (s : Switch) : Bool := r.switches.contains s

end Request

/-- A check that is asked for: the file, the limit if it is given, and what to show. -/
structure Task where
  path : String
  limit : Option Int := none
  switches : List Switch := []
  deriving DecidableEq, Repr

/-- Whether a switch of a task is on. -/
def Task.has (t : Task) (s : Switch) : Bool := t.switches.contains s

/-- What keeps a request from giving an order: a usage error, or a null character in the path, which
the system does not take. -/
inductive Obstacle
  | usage (e : UsageError)
  | nullCharacter
  deriving DecidableEq, Repr

/-- What is to be done. -/
inductive Order
  | notice (n : Notice)
  | check (task : Task)
  deriving DecidableEq, Repr

/-- The limit that is written as the value of its option. -/
def readLimitValue (text : String) : Except UsageError Int :=
  match Text.readInteger text with
  | none => .error (.notAnInteger text)
  | some n => if 0 ≤ n then .ok n else .error (.negativeLimit n)

/-- The limit of a request, if it has one. -/
def Request.limitValue (r : Request) : Except UsageError (Option Int) :=
  match r.limit with
  | none => .ok none
  | some text => (readLimitValue text).map some

/-- The file of a request: the first argument, which must lead to a file. -/
def Request.file (r : Request) (files : FileSystem) : Except Obstacle String :=
  match r.arguments with
  | [] => .error (.usage .missingFile)
  | path :: extra =>
    match files path with
    | .error .nullCharacter => .error .nullCharacter
    | .error .missing | .error .nameTooLong => .error (.usage (.fileNotFound path))
    | .ok .directory => .error (.usage (.fileIsDirectory path))
    | .ok (.file _) => if extra = [] then .ok path else .error (.usage (.extraArguments extra))

/-- The order that a request gives. The limit is checked before the file. -/
def Request.order (r : Request) (files : FileSystem) : Except Obstacle Order :=
  match r.notice with
  | some n => .ok (.notice n)
  | none =>
    match r.limitValue with
    | .error e => .error (.usage e)
    | .ok limit => (r.file files).map fun path => .check ⟨path, limit, r.switches⟩

end BlockLang.CommandLine
