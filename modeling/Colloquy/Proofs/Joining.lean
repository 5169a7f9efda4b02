import Colloquy.Proofs.Trimming
import Colloquy.Script

/-!
# Joined blocks

A line feed separates what stands before it from what stands behind it. A block that is joined from
two others is read as the lines of the one and then the lines of the other, and these only stand
further on: behind the bytes of the first block and the line feed. So what a line says does not
depend on the lines around it, and neither does what can be proved of it: `ofText_induction` goes
from blocks without a line feed to all blocks.
-/

namespace Colloquy

open Text

namespace Text

/-- Bytes are counted as strings count theirs. -/
theorem byteLength_toList (text : String) : byteLength text.toList = text.utf8ByteSize := by
  have hchars : ∀ cs : List Char, byteLength cs = (String.ofList cs).utf8ByteSize := by
    intro cs
    induction cs with
    | nil => rfl
    | cons c cs ih =>
      have hcons : String.ofList (c :: cs) = String.singleton c ++ String.ofList cs := by
        rw [String.singleton_eq_ofList, ← String.ofList_append, List.singleton_append]
      rw [byteLength, ih, hcons, String.utf8ByteSize_append, String.utf8ByteSize_singleton]
  rw [hchars, String.ofList_toList]

/-- A line feed takes up one byte. -/
theorem byteLength_append_lineFeed (cs : List Char) :
    byteLength (cs ++ ['\n']) = byteLength cs + 1 :=
  byteLength_append cs ['\n']

/-- The pieces of a text, each with a line feed behind it, make up the text with one behind it. -/
theorem flatMap_pieces (cs : List Char) : (pieces cs).flatMap (· ++ ['\n']) = cs ++ ['\n'] := by
  induction cs with
  | nil => rfl
  | cons c cs ih =>
    rw [pieces] at ih
    rw [pieces, piecesAt]
    split
    next hc =>
      rw [List.flatMap_cons, ih, hc]
      rfl
    next =>
      cases hpieces : piecesAt '\n' cs with
      | nil => exact absurd hpieces (piecesAt_ne_nil '\n' cs)
      | cons first later =>
        rw [hpieces, List.flatMap_cons] at ih
        rw [List.modifyHead_cons, List.flatMap_cons, List.cons_append, List.cons_append, ih,
          List.cons_append]

end Text

namespace SourceLine

/-- The line, some bytes further on. -/
def shift (line : SourceLine) (distance : Nat) : SourceLine :=
  { line with span := line.span.shift distance }

@[simp]
theorem shift_start (line : SourceLine) (distance : Nat) :
    (line.shift distance).span.start = line.span.start + distance := rfl

@[simp]
theorem shift_stop (line : SourceLine) (distance : Nat) :
    (line.shift distance).span.stop = line.span.stop + distance := rfl

/-- The lines of a text. -/
def ofText (cs : List Char) : List SourceLine := ofPieces 0 (pieces cs)

/-- Where the first piece starts is where all lines are counted from. -/
theorem ofPieces_add (offset distance : Nat) (cuts : List (List Char)) :
    ofPieces (offset + distance) cuts = (ofPieces offset cuts).map (·.shift distance) := by
  induction cuts generalizing offset with
  | nil => rfl
  | cons piece rest ih =>
    have hlater : offset + distance + byteLength piece + 1 =
        offset + byteLength piece + 1 + distance := by omega
    have hstart : offset + distance + byteLength (piece.takeWhile isBlank) =
        offset + byteLength (piece.takeWhile isBlank) + distance := Nat.add_right_comm ..
    rw [ofPieces, ofPieces, hlater, hstart, ih]
    split
    next => rfl
    next => rw [List.map_cons, shift, Span.shift, Nat.add_right_comm _ distance]

/-- Later pieces are counted from behind the earlier ones and their line feeds. -/
theorem ofPieces_append (offset : Nat) (first later : List (List Char)) :
    ofPieces offset (first ++ later) = ofPieces offset first ++
      ofPieces (offset + byteLength (first.flatMap (· ++ ['\n']))) later := by
  induction first generalizing offset with
  | nil => rfl
  | cons piece rest ih =>
    have hbytes : offset + byteLength piece + 1 + byteLength (rest.flatMap (· ++ ['\n'])) =
        offset + byteLength ((piece :: rest).flatMap (· ++ ['\n'])) := by
      rw [List.flatMap_cons, byteLength_append, byteLength_append_lineFeed]
      omega
    rw [List.cons_append, ofPieces, ih, hbytes, ofPieces]
    split <;> rfl

/-- What stands on either side of a line feed has its own lines. -/
theorem ofText_append_lineFeed (front back : List Char) :
    ofText (front ++ '\n' :: back) =
      ofText front ++ (ofText back).map (·.shift (byteLength front + 1)) := by
  rw [ofText, pieces_append_lineFeed, ofPieces_append, flatMap_pieces, byteLength_append_lineFeed,
    ofPieces_add]
  rfl

/-- What holds of the lines of a text without a line feed, and of the lines of a joined text if it
does so of both its parts, holds of the lines of every text. -/
theorem ofText_induction {motive : List Char → List SourceLine → Prop}
    (single : ∀ cs, '\n' ∉ cs → motive cs (ofText cs))
    (join : ∀ front back, motive front (ofText front) → motive back (ofText back) →
      motive (front ++ '\n' :: back)
        (ofText front ++ (ofText back).map (·.shift (byteLength front + 1))))
    (cs : List Char) : motive cs (ofText cs) := by
  -- The induction is on the pieces: all but the last are followed by a line feed.
  suffices h : ∀ cuts : List (List Char), cuts ≠ [] → (∀ piece ∈ cuts, '\n' ∉ piece) →
      motive (joinLines cuts) (ofText (joinLines cuts)) by
    have hpieces := h (pieces cs) (pieces_ne_nil cs) fun _ ↦ not_mem_of_mem_pieces
    rwa [joinLines_pieces] at hpieces
  intro cuts hne hcuts
  induction cuts with
  | nil => exact absurd rfl hne
  | cons piece rest ih =>
    obtain ⟨hpiece, hrest⟩ := List.forall_mem_cons.mp hcuts
    cases rest with
    | nil => exact single piece hpiece
    | cons next later =>
      have hjoin : joinLines (piece :: next :: later) =
          piece ++ '\n' :: joinLines (next :: later) := rfl
      rw [hjoin, ofText_append_lineFeed]
      exact join _ _ (single piece hpiece) (ih (List.cons_ne_nil next later) hrest)

end SourceLine

/-- The line, some bytes further on. -/
def Line.shift (line : Line) (distance : Nat) : Line :=
  { line with span := line.span.shift distance }

/-- A joined block is read as its parts are, one after the other. -/
theorem Script.lines_parse_append (front back : String) (sourceId : Nat) :
    (parse (front ++ "\n" ++ back) sourceId).lines =
      (parse front sourceId).lines ++
        (parse back sourceId).lines.map (·.shift (front.utf8ByteSize + 1)) := by
  have hchars : (front ++ "\n" ++ back).toList = front.toList ++ '\n' :: back.toList := by
    simp only [String.toList_append, List.append_assoc]
    rfl
  have hlines : SourceLine.ofSource (front ++ "\n" ++ back) = SourceLine.ofSource front ++
      (SourceLine.ofSource back).map (·.shift (front.utf8ByteSize + 1)) := by
    rw [← byteLength_toList, SourceLine.ofSource, hchars]
    exact SourceLine.ofText_append_lineFeed front.toList back.toList
  simp only [parse, hlines, List.map_append, List.map_map]
  rfl

/-- Parsing is compositional. The lines of two texts with a line feed between them are those of the
first and then those of the second, moved behind the first and the line feed. So whatever a region
of a block says, the lines before it stay as they are, and the lines behind it are read in the same
way and stand as far on as the region is long. -/
theorem parse_append_lineFeed (sourceId : Nat) :
    (∀ front back : String,
      (Script.parse (front ++ "\n" ++ back) sourceId).lines =
        (Script.parse front sourceId).lines ++
          (Script.parse back sourceId).lines.map (·.shift (front.utf8ByteSize + 1))) ∧
    ∀ before region after : String,
      let edited := Script.parse (before ++ "\n" ++ region ++ "\n" ++ after) sourceId
      edited.lines =
        (Script.parse before sourceId).lines ++
          (Script.parse region sourceId).lines.map (·.shift (before.utf8ByteSize + 1)) ++
          (Script.parse after sourceId).lines.map
            (·.shift (before.utf8ByteSize + 1 + region.utf8ByteSize + 1)) ∧
      edited.directives =
        (Script.parse before sourceId).directives ++ (Script.parse region sourceId).directives ++
          (Script.parse after sourceId).directives := by
  refine ⟨fun front back ↦ Script.lines_parse_append front back sourceId, ?_⟩
  intro before region after edited
  have hfeed : "\n".utf8ByteSize = 1 := rfl
  have hlines : edited.lines =
      (Script.parse before sourceId).lines ++
        (Script.parse region sourceId).lines.map (·.shift (before.utf8ByteSize + 1)) ++
        (Script.parse after sourceId).lines.map
          (·.shift (before.utf8ByteSize + 1 + region.utf8ByteSize + 1)) := by
    rw [Script.lines_parse_append, Script.lines_parse_append, String.utf8ByteSize_append,
      String.utf8ByteSize_append, hfeed]
  refine ⟨hlines, ?_⟩
  -- Moving a line keeps its directive.
  simp only [Script.directives, hlines, List.map_append, List.map_map]
  rfl

end Colloquy
