import Colloquy.Text.Blank

/-!
# Frontmatter

A fixture file starts with a line of three hyphens, after any number of byte order marks. What
follows up to the next line that starts with three hyphens is its frontmatter, and the rest after
that line's break is the block.
-/

namespace Colloquy.Fixture

/-- Which delimiter of the frontmatter is missing. -/
inductive FrontmatterFault where
  | noOpening
  | noClosing
  deriving DecidableEq, Repr

namespace FrontmatterFault

/-- The text in which the fault is reported. -/
def message : FrontmatterFault → String
  | .noOpening => "missing opening --- frontmatter delimiter"
  | .noClosing => "missing closing --- frontmatter delimiter"

end FrontmatterFault

/-- Three hyphens. -/
def delimiter : List Char := ['-', '-', '-']

/-- Remove one line break from the front, if there is one. -/
def dropBreak : List Char → List Char
  | '\n' :: rest => rest
  | '\r' :: '\n' :: rest => rest
  | cs => cs

/-- Cut at the first line break that three hyphens follow: what is before the break, and what is
after the hyphens. -/
def cutAtDelimiter? : List Char → Option (List Char × List Char)
  | [] => none
  | c :: cs =>
    if c = '\n' ∧ delimiter.isPrefixOf cs then some ([], cs.drop delimiter.length)
    else (cutAtDelimiter? cs).map fun (before, after) ↦ (c :: before, after)

/-- The frontmatter and the block of a fixture file. -/
def splitChars (cs : List Char) : Except FrontmatterFault (List Char × List Char) :=
  let cs := cs.dropWhile (· == '\uFEFF')
  if delimiter.isPrefixOf cs then
    match cutAtDelimiter? (dropBreak (cs.drop delimiter.length)) with
    | some (before, after) => .ok (Text.dropEndWhile (· == '\r') before, dropBreak after)
    | none => .error .noClosing
  else .error .noOpening

/-- The frontmatter and the block of a fixture file. -/
def split (content : String) : Except FrontmatterFault (String × String) :=
  (splitChars content.toList).map fun (front, block) ↦ (String.ofList front, String.ofList block)

end Colloquy.Fixture
