import Colloquy.Session.Execute
import Colloquy.Text.Lines
import Colloquy.Text.Width

/-!
# Diagnostics

A warning is shown with the source line that it is about: the message, the place as file, line and
column, the line itself, and carets under the part that the span covers.

Lines and columns count from one, columns in characters. A tab is shown as blanks up to the next
multiple of four columns, and each caret row is as wide as the characters above it.
-/

namespace Colloquy

/-- A place in a source: the number of its line, what is before it on the line, and the line. -/
structure Place where
  number : Nat
  before : List Char
  line : List Char
  deriving DecidableEq, Repr

namespace Place

/-- The place of a byte position, unless it is beyond the end or inside a character. -/
def ofOffset? (source : List Char) (offset : Nat) : Option Place := do
  let lines := Text.pieces (← Text.takeBytes? source offset)
  let line ← (Text.pieces source)[lines.length - 1]?
  return ⟨lines.length, lines.getLastD [], line⟩

/-- The number of the column, from one. -/
def column (place : Place) : Nat := place.before.length + 1

end Place

namespace Diagnostic

/-- A character of a shown line: the bytes that it fills and the columns that it takes. -/
structure Cell where
  char : Char
  span : Span
  columns : Nat
  deriving DecidableEq, Repr

/-- The distance of tab stops. -/
def tabWidth : Nat := 4

/-- The columns that a character takes when `column` columns are before it. -/
def columnsAt (column : Nat) (c : Char) : Nat :=
  if c = '\t' then tabWidth - column % tabWidth else Text.columns c

/-- The cells of a line, after `offset` bytes and `column` columns. -/
def cellsFrom (offset column : Nat) : List Char → List Cell
  | [] => []
  | c :: cs =>
    let columns := columnsAt column c
    ⟨c, ⟨offset, offset + c.utf8Size⟩, columns⟩ ::
      cellsFrom (offset + c.utf8Size) (column + columns) cs

/-- The line as it is shown, without line breaks and null characters at its end. -/
def shownLine (line : List Char) : List Char :=
  Text.dropEndWhile (fun c ↦ c = '\n' ∨ c = '\r' ∨ c = '\x00') line

/-- A cell as text. -/
def Cell.text (cell : Cell) : List Char :=
  if cell.char = '\t' then List.replicate cell.columns ' ' else [cell.char]

/-- What is shown below a cell: carets where the mark covers it, blanks before the end of the
mark, and nothing after it. -/
def Cell.underline (mark : Span) (cell : Cell) : List Char :=
  if max mark.start cell.span.start < min mark.stop cell.span.stop then
    List.replicate cell.columns '^'
  else if cell.span.start < mark.stop then List.replicate cell.columns ' '
  else []

/-- The row of carets below a line. One more column than the line has can be marked. -/
def underline (mark : Span) (line : List Char) : List Char :=
  let length := Text.byteLength line
  let beyond : Cell := ⟨' ', ⟨length, length + 1⟩, 1⟩
  (cellsFrom 0 0 line ++ [beyond]).flatMap (Cell.underline mark)

/-- The part of a line that a span covers, at least one byte of it. -/
def markOf (place : Place) (span : Span) : Span :=
  let start := Text.byteLength place.before
  ⟨start, start + max (span.stop - span.start) 1⟩

/-- The source line of a warning, framed and underlined. -/
def excerpt (file : String) (place : Place) (span : Span) : String :=
  let number := toString place.number
  let gutter := String.ofList (List.replicate (number.length + 1) ' ')
  let line := shownLine place.line
  let text := (cellsFrom 0 0 line).flatMap Cell.text
  gutter ++ "┌─ " ++ file ++ ":" ++ number ++ ":" ++ toString place.column ++ "\n" ++
    gutter ++ "│\n" ++
    number ++ " │ " ++ String.ofList text ++ "\n" ++
    gutter ++ "│ " ++ String.ofList (underline (markOf place span) line) ++ "\n"

/-- A warning with its place in the source of a file, and an empty line after it. -/
def display (file source : String) (warning : Warning) : String :=
  let excerpt :=
    (Place.ofOffset? source.toList warning.span.start).elim "" fun place ↦
      excerpt file place warning.span
  "warning: " ++ warning.message ++ "\n" ++ excerpt ++ "\n"

end Diagnostic
end Colloquy
