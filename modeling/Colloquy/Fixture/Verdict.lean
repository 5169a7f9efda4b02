import Colloquy.Files.Path
import Colloquy.Fixture.Check

/-!
# Verdicts

The verdict on a fixture file says whether the file can be read, whether it is a fixture, and
whether the drawing of its block is as expected.
-/

namespace Colloquy.Fixture

open Toml

/-- Why a fixture file does not pass. -/
inductive Reason where
  | unreadable (cause : FileError)
  | malformed (cause : Error)
  | departs (failure : Failure)

namespace Reason

/-- The text in which the reason is reported. -/
def message : Reason → String
  | .unreadable cause => "cannot read file: " ++ cause.message
  | .malformed cause => "frontmatter error: " ++ cause.message
  | .departs failure => failure.message

end Reason

/-- The verdict on the fixture file of a path. -/
structure Verdict where
  path : String
  description : Option String
  reason : Option Reason

namespace Verdict

/-- Judge the fixture file of a path, given how TOML documents are read and how markdown is
rendered. -/
def ofFileBy (read : String → Option Entries) (markdown : MarkdownRenderer ElementTree)
    (path : String) : FileContent → Verdict
  | .error cause => ⟨path, none, some (.unreadable cause)⟩
  | .ok text =>
    match parseBy read text with
    | .error cause => ⟨path, none, some (.malformed cause)⟩
    | .ok (fixture, block) =>
      let failure := fixture.check block markdown ⟨path⟩
      ⟨path, fixture.description, failure.map .departs⟩

/-- Whether the fixture passes. -/
def passes (verdict : Verdict) : Bool := verdict.reason.isNone

/-- What the fixture is called: its description, or else the stem of its file name. -/
def label (verdict : Verdict) : String :=
  verdict.description.getD ((Path.stem? verdict.path).getD "?")

end Verdict

/-- How the fixture file of a path is judged. -/
abbrev Judge := String → FileContent → Verdict

end Colloquy.Fixture
