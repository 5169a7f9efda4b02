import Colloquy.Decimal.Shortest
import Colloquy.Text.Quoted
import Colloquy.Toml.Value

/-!
# Reading typed values out of TOML

A value that is not of the wanted type is a mismatch, which names what was found and what was
wanted. A thing out of a fixed list goes by its label in lower case. The name may be given as a
string, or as a table whose only key is the name and whose value is empty.
-/

namespace Colloquy.Toml

/-- Why a value is not what was wanted. -/
inductive Mismatch where
  | wrongType (found : Value) (wanted : String)
  | unknownName (name : String) (known : List String)
  | neitherStringNorTable
  | noElement
  | manyElements
  | nonemptyTable
  | nonemptyArray
  | notTable (found : Value)
  /-- A number below zero, where none is wanted. -/
  | negative (value : Int)
  /-- A key that has to be given is not. -/
  | missing (key : String)

namespace Value

/-- What a value is called when it is of the wrong type. -/
def describe : Value → String
  | .string text => "string " ++ Text.quoted text
  | .integer value => "integer `" ++ toString value ++ "`"
  | .float value => "floating point `" ++ value.toText ++ "`"
  | .boolean value => "boolean `" ++ (if value then "true" else "false") ++ "`"
  | .array _ | .tables _ => "sequence"
  | .table .. | .datetime => "map"

/-- The name of the type of a value. -/
def typeName : Value → String
  | .string _ => "string"
  | .integer _ => "integer"
  | .float _ => "float"
  | .boolean _ => "boolean"
  | .datetime => "datetime"
  | .array _ => "array"
  | .tables _ => "array of tables"
  | .table .braces _ => "inline table"
  | .table .. => "table"

/-- The text of a string. -/
def asString : Value → Except Mismatch String
  | .string text => .ok text
  | other => .error (.wrongType other "a string")

/-- The truth value of a boolean. -/
def asBoolean : Value → Except Mismatch Bool
  | .boolean value => .ok value
  | other => .error (.wrongType other "a boolean")

/-- The value of a whole number that is not negative. -/
def asNatural : Value → Except Mismatch Nat
  | .integer value => if 0 ≤ value then .ok value.toNat else .error (.negative value)
  | other => .error (.wrongType other "usize")

/-- The items of an array. -/
def asItems : Value → Except Mismatch (List Value)
  | .array items | .tables items => .ok items
  | other => .error (.wrongType other "a sequence")

/-- The entries of a record with the given fields. An array gives its fields by position; a date
has no field at all. -/
def asRecord (fields : List String) (wanted : String) : Value → Except Mismatch Entries
  | .table _ entries => .ok entries
  | .array items | .tables items => .ok (fields.zip items)
  | .datetime => .ok []
  | other => .error (.wrongType other wanted)

/-- Check that nothing comes with a name. -/
def checkEmpty : Value → Except Mismatch Unit
  | .table _ entries => if entries.isEmpty then .ok () else .error .nonemptyTable
  | .array items | .tables items => if items.isEmpty then .ok () else .error .nonemptyArray
  | other => .error (.notTable other)

/-- The name that documents have for a label: the label in lower case. -/
def nameOfLabel (label : String) : String := String.ofList (label.toList.map Char.toLower)

/-- The thing of a name, out of a list of things with labels. -/
def ofNamed {α : Type} (things : List α) (label : α → String) (name : String) :
    Except Mismatch α :=
  match things.find? fun thing ↦ nameOfLabel (label thing) == name with
  | some thing => .ok thing
  | none => .error (.unknownName name (things.map fun thing ↦ nameOfLabel (label thing)))

/-- The thing that a value names, out of a list of things with labels. -/
def asNamed {α : Type} (things : List α) (label : α → String) : Value → Except Mismatch α
  | .string name => ofNamed things label name
  | .table _ [] => .error .noElement
  | .table _ [(name, payload)] => do
    let thing ← ofNamed things label name
    checkEmpty payload
    return thing
  | .table .. => .error .manyElements
  | _ => .error .neitherStringNorTable

end Value

namespace Mismatch

/-- The names that were wanted, as a part of a sentence. -/
def wantedNames (known : List String) : String :=
  let ticked := known.map fun name ↦ "`" ++ name ++ "`"
  match ticked with
  | [only] => "expected " ++ only
  | [first, second] => "expected " ++ first ++ " or " ++ second
  | _ => "expected one of " ++ ", ".intercalate ticked

/-- The text in which a mismatch is reported. -/
def message : Mismatch → String
  | .wrongType found wanted => "invalid type: " ++ found.describe ++ ", expected " ++ wanted
  | .unknownName name known => "unknown variant `" ++ name ++ "`, " ++ wantedNames known
  | .neitherStringNorTable => "wanted string or table"
  | .noElement => "wanted exactly 1 element, found 0 elements"
  | .manyElements => "wanted exactly 1 element, more than 1 element"
  | .nonemptyTable => "expected empty table"
  | .nonemptyArray => "expected empty array"
  | .notTable found => "expected table, found " ++ found.typeName
  | .negative value => "invalid value: integer `" ++ toString value ++ "`, expected usize"
  | .missing key => "missing field `" ++ key ++ "`"

end Mismatch
end Colloquy.Toml
