import Colloquy.Decimal.Binary64

/-!
# TOML values and tables

A TOML document is a table: keys with values, in the order of the document. A table remembers how
it came about, because that decides what may still be added to it. A table that a longer header
or a dotted key brought about can be added to by others of its kind; one that a header has named,
or that is written in braces, cannot be given again.
-/

namespace Colloquy.Toml

/-- How a table came about. -/
inductive Origin where
  /-- The document itself, or a table that its own header names. -/
  | named
  /-- A table above one that a header names. -/
  | implied
  /-- A table that dotted keys build up. -/
  | dotted
  /-- A table in braces. -/
  | braces
  deriving DecidableEq, Repr

/-- A TOML value. -/
inductive Value where
  | string (text : String)
  | integer (value : Int)
  | float (value : Decimal.Binary64)
  | boolean (value : Bool)
  | datetime
  | array (items : List Value)
  /-- An array whose items are tables given under double brackets. -/
  | tables (items : List Value)
  | table (origin : Origin) (entries : List (String × Value))

/-- Keys with their values, in the order of the document. -/
abbrev Entries := List (String × Value)

namespace Entries

/-- The value of a key. -/
def get? (entries : Entries) (key : String) : Option Value :=
  (entries.find? (·.1 = key)).map Prod.snd

/-- Remove a key. -/
def erase (entries : Entries) (key : String) : Entries := entries.filter (·.1 ≠ key)

/-- Replace the value of a key where it stands, or add the key at the end. -/
def put (entries : Entries) (key : String) (value : Value) : Entries :=
  if entries.any (·.1 = key) then
    entries.map fun entry ↦ if entry.1 = key then (key, value) else entry
  else entries ++ [(key, value)]

/-- Change the entries of a table that a path leads to from a table of the given origin, or fail.
Tables that are missing on the way are made; `made` is their origin. A path goes through the last
table of an array of tables. A path of dotted keys goes through no table that a header names, and
no path goes through a table in braces unless it was made by dotted keys between them. -/
def changeAt (made : Origin) (change : Origin → Entries → Option Entries) :
    List String → Origin → Entries → Option Entries
  | [], origin, entries => change origin entries
  | key :: path, _, entries =>
    match entries.get? key with
    | none => do
      let inner ← changeAt made change path made []
      return entries.put key (.table made inner)
    | some (.table origin inner) =>
      if origin = .braces ∨ (made = .dotted ∧ origin = .named) then none
      else do
        let inner ← changeAt made change path origin inner
        return entries.put key (.table origin inner)
    | some (.tables items) =>
      match items.getLast? with
      | some (.table origin inner) => do
        let inner ← changeAt made change path origin inner
        return entries.put key (.tables (items.dropLast ++ [.table origin inner]))
      | _ => none
    | some _ => none

/-- Add a value under a dotted key. The key must be new, and the table it goes into must be one
that dotted keys build up exactly if there are parts before the last. -/
def addDotted (entries : Entries) (origin : Origin) (path : List String) (key : String)
    (value : Value) : Option Entries :=
  changeAt .dotted
    (fun origin inner ↦
      if (origin = .dotted) = path.isEmpty ∨ (inner.get? key).isSome then none
      else some (inner ++ [(key, value)]))
    path origin entries

/-- Open the table of a header. A table that longer headers have implied is completed, and moves
to the end; any other table of the name is in the way. -/
def openTable (entries : Entries) (path : List String) (key : String) : Option Entries :=
  changeAt .implied
    (fun _ inner ↦
      match inner.get? key with
      | none => some (inner ++ [(key, .table .named [])])
      | some (.table .implied old) => some (inner.erase key ++ [(key, .table .named old)])
      | some _ => none)
    path .named entries

/-- Append a new table to the array of tables of a header. -/
def appendTable (entries : Entries) (path : List String) (key : String) : Option Entries :=
  changeAt .implied
    (fun _ inner ↦
      match inner.get? key with
      | none => some (inner ++ [(key, .tables [.table .named []])])
      | some (.tables items) => some (inner.put key (.tables (items ++ [.table .named []])))
      | some _ => none)
    path .named entries

/-- Add a value under a dotted key of the table that a header path leads to. -/
def addUnder (entries : Entries) (header : List String) (path : List String) (key : String)
    (value : Value) : Option Entries :=
  changeAt .implied (fun origin inner ↦ addDotted inner origin path key value) header .named entries

end Entries
end Colloquy.Toml
