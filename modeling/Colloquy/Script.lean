import Colloquy.Directive.Classifier
import Colloquy.Text.Lines

/-!
# Scripts

The text of a dialogue block is cut at line feeds; each piece is trimmed, and the pieces that
hold nothing but white space are dropped. What remains are the lines of the block, each with the
byte span it has in the text. A script is the list of these lines with their directives.
-/

namespace Colloquy

open Text

/-- A trimmed, non-empty line of a source text. -/
structure SourceLine where
  text : String
  span : Span
  deriving DecidableEq, Repr

namespace SourceLine

/-- The lines of consecutive pieces, the first of which starts at byte `offset`. -/
def ofPieces (offset : Nat) : List (List Char) → List SourceLine
  | [] => []
  | piece :: rest =>
    let text := trim piece
    let start := offset + byteLength (piece.takeWhile isBlank)
    let later := ofPieces (offset + byteLength piece + 1) rest
    if text.isEmpty then later
    else ⟨String.ofList text, ⟨start, start + byteLength text⟩⟩ :: later

/-- The lines of a source text. -/
def ofSource (source : String) : List SourceLine := ofPieces 0 (pieces source.toList)

end SourceLine

/-- A line of a block: its meaning and its byte span in the source. -/
structure Line where
  directive : Directive
  span : Span
  deriving DecidableEq, Repr

/-- The lines of a block, and the number of the source that their spans point into. -/
structure Script where
  lines : List Line
  sourceId : Nat
  deriving DecidableEq, Repr

namespace Script

/-- Whether the script has no line. -/
def isEmpty (script : Script) : Bool := script.lines.isEmpty

/-- The directives of the lines. -/
def directives (script : Script) : List Directive := script.lines.map (·.directive)

/-- Read a block. Every line stands for some directive, so reading never fails. -/
def parse (source : String) (sourceId : Nat) : Script :=
  ⟨(SourceLine.ofSource source).map fun line ↦ ⟨.classify line.text, line.span⟩, sourceId⟩

end Script
end Colloquy
