import Colloquy.Command.Options

/-!
# Command lines

The program draws one block, checks one block for warnings, or runs fixtures. A command line
without the name of a command asks for a block to be drawn: `render` is put before its first
argument that does not start with a hyphen.
-/

namespace Colloquy

/-- The form in which a drawing is printed. -/
inductive Format where
  | html
  | outline
  deriving DecidableEq, Repr

namespace Format

/-- The name of the form. -/
def name : Format → String
  | .html => "html"
  | .outline => "outline"

/-- The form of that exact name. -/
def ofName? (text : String) : Option Format := [html, outline].find? (·.name == text)

end Format

/-- What the program is asked to do. -/
inductive Command where
  /-- Print the drawing of a block. -/
  | render (file : String) (config : Option String) (format : Format) (quiet : Bool)
  /-- Report the warnings of a block. -/
  | check (file : String) (config : Option String)
  /-- Run fixtures. -/
  | test (path : String) (categories : List String) (color : Bool)
  /-- List the categories of fixtures. -/
  | listCategories (path : String)
  deriving DecidableEq, Repr

namespace Command

/-- The name by which a command is called. -/
inductive Verb where
  | render
  | check
  | test
  | help
  deriving DecidableEq, Repr

namespace Verb

/-- The verb as it is written. -/
def name : Verb → String
  | .render => "render"
  | .check => "check"
  | .test => "test"
  | .help => "help"

/-- Every verb. -/
def all : List Verb := [.render, .check, .test, .help]

/-- The verb that is written so. -/
def ofName? (text : String) : Option Verb := all.find? (·.name == text)

/-- Every verb is listed. -/
theorem mem_all (verb : Verb) : verb ∈ all := by cases verb <;> decide

end Verb

/-- The option that asks for help. -/
def helpRule : OptionRule := ⟨"help", some 'h', .ending .help⟩

/-- The option that turns colours off. -/
def colorRule : OptionRule := ⟨"no-color", none, .flag⟩

/-- The option that names a configuration file. -/
def configRule : OptionRule := ⟨"config", some 'c', .value (· != "")⟩

/-- What can be given before the verb. -/
def grammar : Grammar := ⟨[helpRule, colorRule, ⟨"version", some 'V', .ending .version⟩], 0⟩

/-- What can be given after a verb. -/
def Verb.grammar : Verb → Grammar
  | .render => ⟨[helpRule, colorRule, configRule,
      ⟨"format", some 'f', .value fun text ↦ (Format.ofName? text).isSome⟩,
      ⟨"quiet", some 'q', .flag⟩], 1⟩
  | .check => ⟨[helpRule, colorRule, configRule], 1⟩
  | .test => ⟨[helpRule, colorRule, ⟨"category", some 'c', .values⟩,
      ⟨"list-categories", none, .flag⟩], 1⟩
  | .help => ⟨[], 1⟩

/-- Why a command line gives no command: the end of its reading, and the verb it had got to. -/
structure Stop where
  ending : Ending
  verb : Option Verb
  deriving DecidableEq, Repr

/-- The command that a verb makes of what is given after it. -/
def ofReading (verb : Verb) (color : Bool) (reading : Reading) : Except Stop Command :=
  let config := (reading.valuesOf "config").head?
  match verb, reading.positionals with
  | .render, [file] =>
    let format := ((reading.valuesOf "format").head?.bind Format.ofName?).getD .html
    .ok (.render file config format (reading.has "quiet"))
  | .check, [file] => .ok (.check file config)
  | .test, [path] =>
    if reading.has "list-categories" then .ok (.listCategories path)
    else .ok (.test path (reading.valuesOf "category") (color && !reading.has "no-color"))
  | _, _ => .error ⟨.misuse, some verb⟩

/-- Read what comes after `help`: at most one verb. -/
def readHelp : List String → Stop
  | [] => ⟨.help, none⟩
  | [topic] =>
    match Verb.ofName? topic with
    | some verb => ⟨.help, some verb⟩
    | none => ⟨.misuse, none⟩
  | _ => ⟨.misuse, none⟩

/-- Read what comes after a verb. -/
def readAfter (verb : Verb) (color : Bool) (args : List String) : Except Stop Command :=
  if verb = .help then .error (readHelp args)
  else
    match verb.grammar.read args with
    | .ok reading => ofReading verb color reading
    | .error ending => .error ⟨ending, some verb⟩

/-- Read a command line from its first argument on. -/
def readFrom (reading : Reading) : List String → Except Stop Command
  | [] => .error ⟨.misuse, none⟩
  | arg :: rest =>
    match if reading.onlyPositionals then none else Verb.ofName? arg with
    | some verb => readAfter verb (!reading.has "no-color") rest
    | none =>
      match reading.take grammar arg with
      | .ok reading => readFrom reading rest
      | .error ending => .error ⟨ending, none⟩

/-- Put the verb of drawing before the first argument that does not start with a hyphen, unless
that is a verb. -/
def supplyVerb : List String → List String
  | [] => []
  | arg :: rest =>
    if arg.toList.head? = some '-' then arg :: supplyVerb rest
    else if (Verb.ofName? arg).isSome then arg :: rest
    else Verb.render.name :: arg :: rest

/-- Read a command line. -/
def ofArguments (args : List String) : Except Stop Command := readFrom .start (supplyVerb args)

end Command
end Colloquy
