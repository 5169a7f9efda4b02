import Colloquy.Text.Lines

/-!
# Directories

A directory is an ordered list of named entries, each a file or a directory in turn. Files are
texts; a file whose text cannot be had is there all the same, with the reason.

A path is looked up from a directory step by step. What lies outside that directory is taken to
be empty.
-/

namespace Colloquy

/-- Why a file has no text. -/
inductive FileError where
  | notFound
  | notDirectory
  | isDirectory
  | nameTooLong
  | permissionDenied
  | nulInPath
  /-- The bytes of the file are not UTF-8. -/
  | notText
  | other (reason : String)
  deriving DecidableEq, Repr

namespace FileError

/-- The text in which the error is reported. -/
def message : FileError → String
  | .notFound => "No such file or directory (os error 2)"
  | .notDirectory => "Not a directory (os error 20)"
  | .isDirectory => "Is a directory (os error 21)"
  | .nameTooLong => "File name too long (os error 36)"
  | .permissionDenied => "Permission denied (os error 13)"
  | .nulInPath => "file name contained an unexpected NUL byte"
  | .notText => "stream did not contain valid UTF-8"
  | .other reason => reason

end FileError

/-- What reading a file gives. -/
abbrev FileContent := Except FileError String

/-- The entries of a directory. -/
inductive Directory where
  | nil
  | file (name : String) (content : FileContent) (rest : Directory)
  | folder (name : String) (inside rest : Directory)

/-- What a path leads to. -/
inductive Entry where
  | file (content : FileContent)
  | folder (inside : Directory)

namespace Entry

/-- Read an entry as a file. -/
def read : Entry → FileContent
  | .file content => content
  | .folder _ => .error .isDirectory

end Entry

namespace Directory

/-- The entry of a name. -/
def find? (name : String) : Directory → Option Entry
  | .nil => none
  | .file own content rest => if own = name then some (.file content) else rest.find? name
  | .folder own inside rest => if own = name then some (.folder inside) else rest.find? name

/-- A directory of one folder inside another, down to one file or to nothing. -/
def nested (leaf : Option (String × FileContent)) : List String → Directory
  | [] => leaf.elim .nil fun (name, content) ↦ .file name content .nil
  | first :: more => .folder first (nested leaf more) .nil

/-- Add a file, or nothing, below a path of folders, which are made where they are missing. -/
def insert (leaf : Option (String × FileContent)) : Directory → List String → Directory
  | .nil, folders => nested leaf folders
  | .file name content rest, folders => .file name content (rest.insert leaf folders)
  | .folder name inside rest, folders =>
    match folders with
    | [] => .folder name inside (rest.insert leaf [])
    | first :: more =>
      if first = name then .folder name (inside.insert leaf more) rest
      else .folder name inside (rest.insert leaf (first :: more))

/-- The segments of a path, between its slashes. -/
def segments (path : String) : List String :=
  (Text.piecesAt '/' path.toList).map String.ofList

/-- The longest name of an entry, in bytes. -/
def longestName : Nat := 255

/-- The longest path, in bytes. -/
def longestPath : Nat := 4095

/-- Follow the segments of a path from the innermost of a stack of directories, each inside the
next. -/
def walk : List Directory → List String → Except FileError Entry
  | stack, [] => .ok (.folder (stack.headD .nil))
  | stack, segment :: segments =>
    if segment = "" ∨ segment = "." then walk stack segments
    else if segment = ".." then walk stack.tail segments
    else if longestName < segment.utf8ByteSize then .error .nameTooLong
    else
      match (stack.headD .nil).find? segment with
      | none => .error .notFound
      | some (.folder inside) => walk (inside :: stack) segments
      | some (.file content) =>
        if segments.isEmpty then .ok (.file content) else .error .notDirectory

/-- Look a path up. -/
def lookup (directory : Directory) (path : String) : Except FileError Entry :=
  if path.toList.contains '\x00' then .error .nulInPath
  else if longestPath < path.utf8ByteSize then .error .nameTooLong
  else if path = "" then .error .notFound
  else walk (if path.toList.head? = some '/' then [] else [directory]) (segments path)

end Directory
end Colloquy
