import Colloquy.Text.Bytes

/-!
# Lines of a text

Two readings of the same characters. `pieces` cuts at every line feed and keeps what lies
between, so a text with `n` line feeds has `n + 1` pieces. `displayed` is the reading used for
printing: a carriage return before a line feed belongs to the line break, and a line break at
the very end opens no further line.
-/

namespace Colloquy.Text

/-- The pieces between occurrences of a separator, in order. -/
def piecesAt (separator : Char) : List Char → List (List Char)
  | [] => [[]]
  | c :: cs =>
    if c = separator then [] :: piecesAt separator cs
    else (piecesAt separator cs).modifyHead (c :: ·)

/-- Join pieces by a separator. -/
def joinBy (separator : Char) : List (List Char) → List Char
  | [] => []
  | [piece] => piece
  | piece :: rest => piece ++ separator :: joinBy separator rest

/-- The pieces between line feeds, in order. -/
def pieces (cs : List Char) : List (List Char) := piecesAt '\n' cs

/-- Join pieces by line feeds. -/
def joinLines (pieces : List (List Char)) : List Char := joinBy '\n' pieces

/-- Remove one carriage return from the end, if there is one. -/
def dropReturn (cs : List Char) : List Char :=
  if cs.getLast? = some '\r' then cs.dropLast else cs

/-- The lines that pieces are shown as. -/
def displayedPieces : List (List Char) → List (List Char)
  | [] => []
  | [last] => if last.isEmpty then [] else [last]
  | piece :: rest => dropReturn piece :: displayedPieces rest

/-- The lines as they are shown one under another. -/
def displayed (cs : List Char) : List (List Char) := displayedPieces (pieces cs)

/-- The one-based number of the line on which a byte position lies: one more than the number of
line feeds before it. A position beyond the end counts as the end; one inside a character has
no line. -/
def lineNumber? (source : List Char) (offset : Nat) : Option Nat :=
  (takeBytes? source (min offset (byteLength source))).map (·.count '\n' + 1)

/-- A text has at least one piece. -/
theorem piecesAt_ne_nil (separator : Char) (cs : List Char) : piecesAt separator cs ≠ [] := by
  induction cs with
  | nil => simp [piecesAt]
  | cons c cs ih =>
    unfold piecesAt
    split
    · simp
    · cases h : piecesAt separator cs with
      | nil => exact absurd h ih
      | cons p ps => simp

/-- Joining the pieces of a text gives the text back. -/
theorem joinBy_piecesAt (separator : Char) (cs : List Char) :
    joinBy separator (piecesAt separator cs) = cs := by
  induction cs with
  | nil => rfl
  | cons c cs ih =>
    unfold piecesAt
    cases h : piecesAt separator cs with
    | nil => exact absurd h (piecesAt_ne_nil separator cs)
    | cons p ps =>
      rw [h] at ih
      split
      · next hc => simp [joinBy, ih, hc]
      · cases ps with
        | nil => simpa [joinBy] using ih
        | cons q qs => simpa [joinBy] using ih

/-- A text has at least one line. -/
theorem pieces_ne_nil (cs : List Char) : pieces cs ≠ [] := piecesAt_ne_nil '\n' cs

/-- Joining the lines of a text gives the text back. -/
theorem joinLines_pieces (cs : List Char) : joinLines (pieces cs) = cs := joinBy_piecesAt '\n' cs

end Colloquy.Text
