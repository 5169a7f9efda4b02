import Colloquy.ElementTree.View
import Colloquy.Fixture.Basic
import Colloquy.Render.Script
import Colloquy.Text.Lines
import Colloquy.Text.Search

/-!
# Checking fixtures

A fixture is checked against the drawing of its block: first the outline, then the HTML, then the
warnings one for one, each by its text and by the line on which it starts. The first expectation
that does not hold is the failure of the fixture.
-/

namespace Colloquy.Fixture

/-- How a drawing departs from what is expected of it. -/
inductive Failure where
  /-- The drawing stopped. -/
  | render (error : RenderError)
  | outline (expected actual : String)
  /-- A text is not in the HTML. -/
  | html (expected actual : String)
  | warningCount (expected : Nat) (actual : List Warning)
  | warningText (index : Nat) (expected actual : String)
  | warningLine (index expected actual : Nat)
  /-- A warning has no line, as it starts inside a character of the source. -/
  | warningOffLine (index : Nat)
  deriving DecidableEq, Repr

/-- The text with each of its lines moved four places to the right. -/
def indent (text : String) : String :=
  "\n".intercalate ((Text.displayed text.toList).map fun line ↦ "    " ++ String.ofList line)

namespace Failure

/-- The messages of warnings as a list of items. -/
def warningItems (warnings : List Warning) : String :=
  if warnings.isEmpty then "    (none)"
  else "\n".intercalate (warnings.map fun warning ↦ "  - " ++ warning.message)

/-- The text in which a failure is reported. -/
def message : Failure → String
  | .render error => "render error: " ++ error.message
  | .outline expected actual =>
    "outline mismatch\n  expected:\n" ++ indent expected ++ "\n  actual:\n" ++ indent actual
  | .html expected actual =>
    "expected HTML containing \"" ++ expected ++ "\", got:\n    " ++ actual
  | .warningCount expected actual =>
    "expected " ++ toString expected ++ " warning(s), got " ++ toString actual.length ++
      "\n  actual warnings:\n" ++ warningItems actual
  | .warningText index expected actual =>
    "warning[" ++ toString index ++ "]: expected message containing \"" ++ expected ++
      "\", got: " ++ actual
  | .warningLine index expected actual =>
    "warning[" ++ toString index ++ "]: expected on line " ++ toString expected ++
      ", but span is on line " ++ toString actual
  | .warningOffLine index => "warning[" ++ toString index ++ "]: span starts inside a character"

end Failure

/-- What an expected outline is compared by: without line breaks before it and blanks after it. -/
def outlineCore (expected : String) : String :=
  String.ofList (Text.trimEnd (expected.toList.dropWhile fun c ↦ c = '\n' ∨ c = '\r'))

/-- Check the outline of a drawing. -/
def checkOutline (expected actual : String) : Option Failure :=
  let expected := outlineCore expected
  let actual := String.ofList (Text.trimEnd actual.toList)
  if actual = expected then none else some (.outline expected actual)

/-- Check that a text is in the HTML of a drawing. -/
def checkHtml (actual expected : String) : Option Failure :=
  if Text.contains actual expected then none else some (.html expected actual)

/-- Check the line on which a warning starts. -/
def checkLine (source : String) (index : Nat) (actual : Warning) (expected : Nat) :
    Option Failure :=
  match Text.lineNumber? source.toList actual.span.start with
  | none => some (.warningOffLine index)
  | some line => if line = expected then none else some (.warningLine index expected line)

/-- Check one warning: its text, then its line. -/
def checkWarning (source : String) (index : Nat) (actual : Warning) (expected : ExpectedWarning) :
    Option Failure :=
  if Text.contains actual.message expected.contains then
    expected.line.bind (checkLine source index actual)
  else some (.warningText index expected.contains actual.message)

/-- Check the warnings of a drawing, one for one. -/
def checkWarnings (source : String) (actual : List Warning) (expected : List ExpectedWarning) :
    Option Failure :=
  if actual.length = expected.length then
    (actual.zip expected).zipIdx.findSome? fun ((actual, expected), index) ↦
      checkWarning source index actual expected
  else some (.warningCount expected.length actual)

/-- Check a drawing of a block against all expectations. -/
def checkDrawing (fixture : Fixture) (block : String) (outcome : Outcome) (tree : ElementTree) :
    Option Failure :=
  fixture.outline.bind (checkOutline · tree.outline) <|>
    fixture.html.findSome? (checkHtml tree.toHtml) <|>
    fixture.warnings.bind (checkWarnings block outcome.warnings)

/-- Draw the block of a fixture and check it. -/
def check (fixture : Fixture) (block : String) (markdown : MarkdownRenderer ElementTree)
    (context : MarkdownContext) : Option Failure :=
  let drawing :=
    renderDialogue block fixture.settings ElementTree.sink markdown context ElementTree.empty
  match drawing with
  | (.ok outcome, tree) => fixture.checkDrawing block outcome tree
  | (.error error, _) => some (.render error)

end Colloquy.Fixture
