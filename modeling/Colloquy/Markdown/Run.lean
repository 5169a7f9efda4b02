import Colloquy.Forest
import Colloquy.Text.Blank
import Colloquy.Text.Punctuation

/-!
# Delimiter runs

Emphasis is written by runs of `*` or `_`, and deletion by one or two `~`. Whether a run may open
or close depends on the characters at its sides. A closing run is matched with the nearest opening
run of its mark below it on a stack; what lies between becomes the content. Runs that find no
partner are plain text.
-/

namespace Colloquy.Markdown

/-- A node of running text. -/
inductive Inline where
  | text (chars : List Char)
  | code (chars : List Char)
  | emphasis
  | strong
  | deletion
  | link (destination title : List Char)
  | image (destination title : List Char)
  deriving DecidableEq, Repr

/-- Running text with its markup. -/
abbrev Inlines := Forest Inline

/-- A run of one mark. -/
structure Run where
  mark : Char
  /-- How many of its marks are not used up. -/
  count : Nat
  /-- How many marks it was written with. -/
  length : Nat
  opens : Bool
  closes : Bool
  deriving DecidableEq, Repr

/-- A part of running text whose delimiter runs are not matched yet. -/
inductive Piece where
  | node (content : Inlines)
  | run (run : Run)
  deriving DecidableEq, Repr

/-- A text as one piece. -/
def Piece.ofText (chars : List Char) : Piece := .node (.cons (.text chars) .nil .nil)

/-- Whether white space or nothing is at a side of a run. -/
def blankAt (side : Option Char) : Bool := side.all Text.isBlank

/-- Whether punctuation is at a side of a run. -/
def punctuationAt (side : Option Char) : Bool := side.any Text.isPunctuation

/-- Whether a mark may stand inside a word: `*` and a double `~` may, `_` and a single `~` may
not. -/
def standsInWord (mark : Char) (length : Nat) : Bool :=
  mark == '*' || (mark == '~' && 1 < length)

/-- Whether a run may open, given the characters before and after it. -/
def opensBetween (mark : Char) (length : Nat) (before after : Option Char) : Bool :=
  !blankAt after &&
    (blankAt before || punctuationAt before ||
      (standsInWord mark length && (mark == '~' || !punctuationAt after)))

/-- Whether a run may close, given the characters before and after it. -/
def closesBetween (mark : Char) (length : Nat) (before after : Option Char) : Bool :=
  !blankAt before &&
    (blankAt after || punctuationAt after ||
      (standsInWord mark length && !punctuationAt before))

namespace Run

/-- A run as it is written between two characters. Three `~` or more are no run. -/
def between (mark : Char) (length : Nat) (before after : Option Char) : Run :=
  let valid := mark != '~' || length ≤ 2
  ⟨mark, length, length, valid && opensBetween mark length before after,
    valid && closesBetween mark length before after⟩

/-- Whether an opening run is a partner for a closing one. Two `~` runs must be equally long. If
one of the two runs could do both, their lengths must not add up to a multiple of three, unless
each is one. -/
def isOpenerOf (opener closer : Run) : Bool :=
  opener.mark == closer.mark && opener.opens &&
    (closer.mark != '~' || opener.length == closer.length) &&
    ((!(opener.opens && opener.closes) && !(closer.opens && closer.closes)) ||
      (opener.length + closer.length) % 3 != 0 || closer.length % 3 == 0)

/-- The marks of a run as text. -/
def marks (run : Run) : List Char := List.replicate run.count run.mark

/-- How many marks of each run a pair uses up, and what it makes. -/
def pairing (opener closer : Run) : Nat × Inline :=
  if closer.mark = '~' then (closer.count, .deletion)
  else if 2 ≤ opener.count ∧ 2 ≤ closer.count then (2, .strong)
  else (1, .emphasis)

end Run

/-- A piece with unmatched runs as text. -/
def Piece.toInlines : Piece → Inlines
  | .node content => content
  | .run unmatched => .cons (.text unmatched.marks) .nil .nil

/-- Pieces in reverse order as running text. -/
def joinReversed (pieces : List Piece) : Inlines :=
  pieces.foldl (fun later piece ↦ piece.toInlines.append later) .nil

/-- Find the nearest partner of a closing run: what is above it, the partner and what is below. -/
def splitAtOpener (closer : Run) : List Piece → Option (List Piece × Run × List Piece)
  | [] => none
  | piece :: below =>
    let further := (splitAtOpener closer below).map fun (above, rest) ↦ (piece :: above, rest)
    match piece with
    | .run run => if run.isOpenerOf closer then some ([], run, below) else further
    | .node _ => further

/-- Put a run on a stack of pieces, the nearest first: match it as often as it finds partners, and
keep what is left of it if it can open. Each match uses up a mark, so `fuel` marks and one more are
steps enough. -/
def addRun : Nat → Run → List Piece → List Piece
  | 0, _, stack => stack
  | fuel + 1, run, stack =>
    if run.count = 0 then stack
    else
      match if run.closes then splitAtOpener run stack else none with
      | none => if run.opens then .run run :: stack else .ofText run.marks :: stack
      | some (above, opener, below) =>
        let (used, label) := opener.pairing run
        let content := Piece.node (.cons label (joinReversed above) .nil)
        let below :=
          if opener.count = used then below
          else .run { opener with count := opener.count - used } :: below
        addRun fuel { run with count := run.count - used } (content :: below)

/-- Match the runs of a list of pieces. -/
def resolveRuns (pieces : List Piece) : Inlines :=
  joinReversed (pieces.foldl
    (fun stack piece ↦
      match piece with
      | .node content => .node content :: stack
      | .run run => addRun (run.count + 1) run stack)
    [])

end Colloquy.Markdown
