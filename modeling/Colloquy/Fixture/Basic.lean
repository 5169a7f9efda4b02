import Colloquy.Config.Read
import Colloquy.Fixture.Frontmatter

/-!
# Fixtures

A fixture is a dialogue block with what is expected of it. The frontmatter of its file is a TOML
table: a description, the configuration to draw under, and the expectations, each of which may be
left out.
-/

namespace Colloquy

open Toml

/-- What is expected of one warning. -/
structure ExpectedWarning where
  /-- A text that the message must contain. -/
  contains : String
  /-- The one-based line on which the warning must start, if that is to be checked. -/
  line : Option Nat
  deriving DecidableEq, Repr

/-- The frontmatter of a fixture. -/
structure Fixture where
  description : Option String
  settings : Config
  /-- The outline of the drawing, blank lines around it apart. -/
  outline : Option String
  /-- Texts that the HTML must contain. -/
  html : List String
  /-- The warnings, one for one. -/
  warnings : Option (List ExpectedWarning)
  deriving DecidableEq, Repr

namespace ExpectedWarning

/-- The expectation that one value gives. -/
def ofValue (value : Value) : Except Mismatch ExpectedWarning := do
  let entries ← value.asRecord ["contains", "line"] "struct ExpectedWarning"
  match entries.get? "contains" with
  | none => .error (.missing "contains")
  | some contains =>
    return ⟨← contains.asString, ← (entries.get? "line").mapM Value.asNatural⟩

end ExpectedWarning

namespace Fixture

/-- The fixture that a frontmatter table gives. -/
def ofEntries (entries : Entries) : Except Mismatch Fixture := do
  return {
    description := ← (entries.get? "description").mapM Value.asString
    settings := ← (entries.get? "settings").elim (.ok .default) Config.ofValue
    outline := ← (entries.get? "expect_outline").mapM Value.asString
    html := ← (entries.get? "expect_html").elim (.ok []) fun value ↦ do
      (← value.asItems).mapM Value.asString
    warnings := ← (entries.get? "expect_warnings").mapM fun value ↦ do
      (← value.asItems).mapM ExpectedWarning.ofValue }

/-- Why a file is no fixture. -/
inductive Error where
  | frontmatter (fault : FrontmatterFault)
  /-- The frontmatter is no TOML table of the right kind. -/
  | table (cause : Config.Error)

namespace Error

/-- The text in which the error is reported. -/
def message : Error → String
  | .frontmatter fault => fault.message
  | .table cause => cause.message

end Error

/-- Read a fixture file, given how TOML documents are read: the fixture and the source of its
block. -/
def parseBy (read : String → Option Entries) (content : String) :
    Except Error (Fixture × String) :=
  match split content with
  | .error fault => .error (.frontmatter fault)
  | .ok (front, block) =>
    match read front with
    | none => .error (.table .syntaxError)
    | some entries =>
      match ofEntries entries with
      | .ok fixture => .ok (fixture, block)
      | .error cause => .error (.table (.mismatch cause))

/-- Read a fixture file. -/
def parse : String → Except Error (Fixture × String) := parseBy Toml.parse

end Fixture
end Colloquy
