import Colloquy.Toml.Scalar

/-!
# TOML documents

A document is read line by line into one table. A header line opens a table, and the lines after
it fill that table; a key that is given twice spoils the document.
-/

namespace Colloquy.Toml

open Text Text.Reader

/-- Values are nested at most this deep. -/
def maxNesting : Nat := 79

/-- Read a key and the value after its equals sign. -/
def pair (value : Reader Value) : Reader ((List String × String) × Value) := do
  let name ← key
  literal ['=']
  blanks
  return (name, ← value)

/-- Read an array, given how to read its items. -/
def array (item : Reader Value) : Reader Value := do
  literal ['[']
  let items ← separated (do filler; let value ← item; filler; return value) (literal [','])
  if !items.isEmpty then
    let _ ← maybe (literal [','])
  filler
  literal [']']
  return .array items

/-- Read a table in braces, given how to read its values. -/
def inlineTable (item : Reader Value) : Reader Value := do
  literal ['\x7b']
  blanks
  let pairs ← separated (do let entry ← pair item; blanks; return entry) (literal [','])
  literal ['\x7d']
  let entries ← pairs.foldlM
    (fun (entries : Entries) ((path, name), value) ↦
      liftM (entries.addDotted .named path name value)) []
  return .table .braces entries

/-- Read a value that nests at most `depth` deep. -/
def value : Nat → Reader Value
  | 0 => scalar
  | depth + 1 => array (value depth) <|> inlineTable (value depth) <|> scalar

/-- A line of a document. -/
inductive Statement where
  | empty
  | entry (path : List String) (name : String) (value : Value)
  | header (path : List String) (name : String)
  | arrayHeader (path : List String) (name : String)

/-- Read a line. -/
def statement : Reader Statement := do
  blanks
  match ← peek with
  | some '[' =>
    (do
      literal ['[', '[']
      let (path, name) ← key
      literal [']', ']']
      restOfLine
      return .arrayHeader path name) <|>
    (do
      literal ['[']
      let (path, name) ← key
      literal [']']
      restOfLine
      return .header path name)
  | some '#' | some '\n' | some '\r' => restOfLine *> return .empty
  | none => failure
  | some _ =>
    let ((path, name), entryValue) ← pair (value maxNesting)
    restOfLine
    return .entry path name entryValue

/-- The table that is built so far, and the path of the table that is being filled. -/
structure Progress where
  entries : Entries
  current : List String

namespace Progress

/-- Add a line. -/
def add (progress : Progress) : Statement → Option Progress
  | .empty => some progress
  | .entry path name entryValue => do
    return { progress with
      entries := ← progress.entries.addUnder progress.current path name entryValue }
  | .header path name => do
    return ⟨← progress.entries.openTable path name, path ++ [name]⟩
  | .arrayHeader path name => do
    return ⟨← progress.entries.appendTable path name, path ++ [name]⟩

end Progress

/-- The entries of a document, or nothing if the text is not one. A byte order mark in front is
skipped. -/
def parse (text : String) : Option Entries := do
  let cs := text.toList
  let cs := if cs.head? = some '\uFEFF' then cs.tail else cs
  let statements ← (do let lines ← many statement; blanks; return lines : Reader _).run cs
  let final ← statements.foldlM Progress.add ⟨[], []⟩
  return final.entries

end Colloquy.Toml
