import Colloquy.Files.Directory

/-!
# Paths

What can be said of a path without following it: the name of the file that it ends in, the stem of
that name, and the path of an entry below it.
-/

namespace Colloquy.Path

/-- The last name of a path, if it ends in one. -/
def fileName? (path : String) : Option String :=
  let names := (Directory.segments path).filter fun segment ↦ segment ≠ "" ∧ segment ≠ "."
  names.getLast?.filter (· ≠ "..")

/-- A file name without its last extension. A full stop at the very front starts no extension. -/
def stemChars (name : List Char) : List Char :=
  let pieces := Text.piecesAt '.' name
  let stem := Text.joinBy '.' pieces.dropLast
  if stem.isEmpty then name else stem

/-- The last name of a path without its last extension. -/
def stem? (path : String) : Option String :=
  (fileName? path).map fun name ↦ String.ofList (stemChars name.toList)

/-- The path of an entry below a directory. -/
def join (path name : String) : String :=
  if path = "" ∨ path.toList.getLast? = some '/' then path ++ name else path ++ "/" ++ name

end Colloquy.Path
