/-!
# Options of a command line

Arguments are read from left to right. An option is written long (`--name`, `--name=value`) or by
its letter (`-l`, `-lvalue`, `-l=value`); letters of options without a value may stand together.
Two hyphens alone make all that follows positional.

The reading stops at the first argument that asks for help or for the version, and at the first
that does not fit: an unknown option, a missing, refused or unwanted value, an option given twice,
or one positional argument too many.
-/

namespace Colloquy.Command

/-- How the reading of a command line ends when it gives no command. -/
inductive Ending where
  | help
  | version
  | misuse
  deriving DecidableEq, Repr

/-- What an option does. -/
inductive OptionKind where
  /-- It is given or not. -/
  | flag
  /-- It takes a value that is accepted, at most once. -/
  | value (accepts : String → Bool)
  /-- It takes any value, as often as it is given. -/
  | values
  /-- It ends the reading. -/
  | ending (ending : Ending)

/-- An option: its long name, its letter and what it does. -/
structure OptionRule where
  name : String
  letter : Option Char
  kind : OptionKind

namespace OptionRule

/-- Whether the option is followed by a value. -/
def takesValue (rule : OptionRule) : Bool :=
  match rule.kind with
  | .value _ | .values => true
  | .flag | .ending _ => false

end OptionRule

/-- What can be given: options and a number of positional arguments. -/
structure Grammar where
  rules : List OptionRule
  positionals : Nat

/-- How far a command line has been read. -/
structure Reading where
  /-- The options so far, in order, with their values; a flag has an empty one. -/
  options : List (String × String)
  positionals : List String
  /-- The option that waits for its value. -/
  pending : Option OptionRule
  /-- Whether everything from here on is positional. -/
  onlyPositionals : Bool

namespace Reading

/-- Nothing has been read. -/
def start : Reading := ⟨[], [], none, false⟩

/-- Whether an option has been given. -/
def has (reading : Reading) (name : String) : Bool := reading.options.any (·.1 == name)

/-- The values of an option, in order. -/
def valuesOf (reading : Reading) (name : String) : List String :=
  (reading.options.filter (·.1 == name)).map Prod.snd

/-- Take an option without a value. -/
def takeFlag (reading : Reading) (rule : OptionRule) : Except Ending Reading :=
  match rule.kind with
  | .ending ending => .error ending
  | _ =>
    if reading.has rule.name then .error .misuse
    else .ok { reading with options := reading.options ++ [(rule.name, "")] }

/-- Take an option with its value. -/
def takeValue (reading : Reading) (rule : OptionRule) (value : String) : Except Ending Reading :=
  let taken : Reading :=
    { reading with options := reading.options ++ [(rule.name, value)], pending := none }
  match rule.kind with
  | .value accepts =>
    if accepts value && !reading.has rule.name then .ok taken else .error .misuse
  | .values => .ok taken
  | _ => .error .misuse

/-- Take a positional argument, of which there may be no more than `limit`. -/
def takePositional (limit : Nat) (reading : Reading) (arg : String) : Except Ending Reading :=
  if reading.positionals.length < limit then
    .ok { reading with positionals := reading.positionals ++ [arg] }
  else .error .misuse

/-- Take a long option, written without its hyphens. -/
def takeLong (rules : List OptionRule) (reading : Reading) (body : List Char) :
    Except Ending Reading :=
  let name := String.ofList (body.takeWhile (· != '='))
  match rules.find? (·.name == name), body.dropWhile (· != '=') with
  | none, _ => .error .misuse
  | some rule, [] =>
    if rule.takesValue then .ok { reading with pending := some rule } else reading.takeFlag rule
  | some rule, _ :: value => reading.takeValue rule (String.ofList value)

/-- Take a row of option letters. -/
def takeLetters (rules : List OptionRule) (reading : Reading) : List Char → Except Ending Reading
  | [] => .ok reading
  | letter :: rest =>
    match rules.find? (·.letter == some letter) with
    | none => .error .misuse
    | some rule =>
      if rule.takesValue then
        match rest with
        | [] => .ok { reading with pending := some rule }
        | '=' :: value => reading.takeValue rule (String.ofList value)
        | value => reading.takeValue rule (String.ofList value)
      else
        match reading.takeFlag rule with
        | .ok reading => takeLetters rules reading rest
        | .error ending => .error ending

/-- Take what starts with a hyphen, unless an option waits for a value. -/
def takeHyphened (rules : List OptionRule) (reading : Reading) (body : List Char) :
    Except Ending Reading :=
  if reading.pending.isSome then .error .misuse
  else
    match body with
    | ['-'] => .ok { reading with onlyPositionals := true }
    | '-' :: body => reading.takeLong rules body
    | letters => reading.takeLetters rules letters

/-- Take one argument. A hyphen alone is not an option. -/
def take (grammar : Grammar) (reading : Reading) (arg : String) : Except Ending Reading :=
  if reading.onlyPositionals then reading.takePositional grammar.positionals arg
  else
    match arg.toList, reading.pending with
    | '-' :: c :: cs, _ => reading.takeHyphened grammar.rules (c :: cs)
    | _, some rule => reading.takeValue rule arg
    | _, none => reading.takePositional grammar.positionals arg

end Reading

/-- Read all arguments. -/
def Grammar.read (grammar : Grammar) (args : List String) : Except Ending Reading := do
  let reading ← args.foldlM (Reading.take grammar) .start
  if reading.pending.isSome then .error .misuse
  return reading

end Colloquy.Command
