import Colloquy.Fixture.Category
import Colloquy.Fixture.Verdict
import Colloquy.Report

/-!
# Suites of fixtures

A suite is what a path leads to: a single fixture file, or all fixtures of a directory in the
order of their categories. Its report names every fixture with its verdict, tells of each failure
in full, and counts both kinds. It ends well when something was run and nothing failed.
-/

namespace Colloquy.Fixture

/-- Verdicts under a heading, which a single file goes without. -/
structure Section where
  heading : Option String
  verdicts : List Verdict

namespace Section

/-- Judge a single file. -/
def ofFile (judge : Judge) (path : String) (content : FileContent) : Section :=
  ⟨none, [judge path content]⟩

/-- Judge the fixtures of a category. -/
def ofCategory (judge : Judge) (root : String) (category : Category) : Section :=
  ⟨some (Category.label category.name),
    category.fixtures.map fun found ↦ judge (found.path root) found.content⟩

end Section

namespace Verdict

/-- The line of a verdict. -/
def line (color : Bool) (verdict : Verdict) : String :=
  let word :=
    if verdict.passes then Emphasis.good.paint color "PASS" else Emphasis.bad.paint color "FAIL"
  reportLine ("  " ++ word ++ "  " ++ verdict.label)

/-- The full account of a failure. -/
def account (verdict : Verdict) : String :=
  match verdict.reason with
  | none => ""
  | some reason =>
    reportLine "" ++ reportLine ("  --- " ++ verdict.path ++ " ---") ++
      String.join ((Text.displayed reason.message.toList).map fun line ↦
        reportLine ("  " ++ String.ofList line))

end Verdict

namespace Section

/-- The lines of a section. -/
def text (color : Bool) (part : Section) : String :=
  let heading := part.heading.elim "" fun heading ↦
    reportLine "" ++ reportLine (Emphasis.heading.paint color heading)
  heading ++ String.join (part.verdicts.map (Verdict.line color))

end Section

/-- The accounts of all failures. -/
def accounts (failed : List Verdict) : String :=
  if failed.isEmpty then ""
  else reportLine "" ++ reportLine "failures:" ++ String.join (failed.map Verdict.account)

/-- The last line of a report. -/
def tally (color : Bool) (passed failed : Nat) : String :=
  if failed = 0 then
    reportLine ("test result: " ++ Emphasis.good.paint color "ok" ++ ". " ++ toString passed ++
      " passed, 0 failed")
  else
    reportLine ("test result: " ++ Emphasis.bad.paint color "FAILED" ++ ". " ++ toString passed ++
      " passed, " ++ toString failed ++ " failed (of " ++ toString (passed + failed) ++ ")")

/-- The report on some sections. -/
def reportOn (color : Bool) (sections : List Section) : Report :=
  let verdicts := sections.flatMap Section.verdicts
  let passed := verdicts.filter Verdict.passes
  let failed := verdicts.filter fun verdict ↦ !verdict.passes
  { exit := if failed.isEmpty then 0 else 1
    output := ""
    messages := String.join (sections.map (Section.text color)) ++ accounts failed ++
      reportLine "" ++ tally color passed.length failed.length }

/-- What is said when a path leads to no fixture. -/
def nothingFound (path : String) : String :=
  reportLine ("no " ++ extension ++ " files found in " ++ path)

/-- The warning about a request that selects no category. -/
def unmatchedWarning (categories : List Category) (request : String) : String :=
  reportLine ("warning: category '" ++ request ++ "' not found (available: " ++
    ", ".intercalate (categories.map fun category ↦ Category.label category.name) ++ ")")

/-- Run the fixtures of the requested categories below a path. -/
def runCategories (judge : Judge) (color : Bool) (root : String) (categories : List Category)
    (requests : List String) : Report :=
  let warnings := String.join
    ((Category.unmatched categories requests).map (unmatchedWarning categories))
  let chosen := Category.select categories requests
  if chosen.isEmpty then .failure (warnings ++ reportLine "no matching categories found")
  else
    let report := reportOn color (chosen.map (Section.ofCategory judge root))
    { report with messages := warnings ++ report.messages }

/-- The categories of the fixtures that a path leads to. -/
def categoriesOf : Except FileError Entry → List Category
  | .ok (.folder inside) => Category.ofDirectory inside
  | _ => []

/-- Run the fixture of a file, or those of the requested categories of a directory. -/
def run (judge : Judge) (color : Bool) (path : String) (requests : List String)
    (entry : Except FileError Entry) : Report :=
  match entry with
  | .ok (.file content) => reportOn color [.ofFile judge path content]
  | entry =>
    let categories := categoriesOf entry
    if categories.isEmpty then .failure (nothingFound path)
    else runCategories judge color path categories requests

/-- List the categories that a path leads to. -/
def listCategories (path : String) (entry : Except FileError Entry) : Report :=
  match entry with
  | .ok (.file _) => .success "" (reportLine "(single file, no categories)")
  | entry =>
    let categories := categoriesOf entry
    if categories.isEmpty then .success "" (nothingFound path)
    else
      .success "" (reportLine "available categories:" ++
        String.join (categories.map fun category ↦
          reportLine ("  " ++ Category.label category.name ++ " (" ++
            toString category.fixtures.length ++ " tests)")))

end Colloquy.Fixture
