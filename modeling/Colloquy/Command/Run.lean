import Colloquy.Command.Usage
import Colloquy.Config.Load
import Colloquy.Diagnostic
import Colloquy.Fixture.Suite
import Colloquy.Markdown.Html

/-!
# Running commands

A command is run against what its paths lead to. A configuration file is read before the block it
applies to, so it is the one reported when both are at fault. All blocks, those of fixtures too, are
drawn with markdown as HTML.
-/

namespace Colloquy

/-- The renderer that the commands draw with. -/
def Command.markdown : MarkdownRenderer ElementTree := .ofHtml Markdown.toHtml ElementTree.sink

/-- Judge the fixture file of a path as the commands do. -/
def Fixture.Verdict.ofFile : Fixture.Judge := .ofFileBy Toml.parse Command.markdown

namespace Command

/-- What paths lead to. -/
abbrev Lookup := String → Except FileError Entry

/-- The text of the file that a path leads to. -/
def Lookup.read (files : Lookup) (path : String) : FileContent := do (← files path).read

/-- Why a block cannot be drawn. -/
inductive Failure where
  | config (cause : Config.LoadError)
  | source (file : String) (cause : FileError)
  | render (cause : RenderError)

namespace Failure

/-- The text in which the failure is reported. -/
def message : Failure → String
  | .config cause => "error: " ++ cause.message
  | .source file cause => "error: cannot read '" ++ file ++ "': " ++ cause.message
  | .render cause => "render error: " ++ cause.message

/-- The report on a failure. -/
def report (failure : Failure) : Report := .failure (reportLine failure.message)

end Failure

/-- A drawing with the source that its warnings point into. -/
structure Drawn where
  source : String
  tree : ElementTree
  warnings : List Warning

/-- The configuration that a command names, or the default. -/
def configOf (files : Lookup) : Option String → Except Failure Config
  | none => .ok .default
  | some path => (Config.load path (files.read path)).mapError .config

/-- Draw the block in a file. -/
def draw (files : Lookup) (file : String) (config : Option String) : Except Failure Drawn := do
  let config ← configOf files config
  let source ← (files.read file).mapError (.source file)
  match renderDialogue source config ElementTree.sink markdown ⟨file⟩ ElementTree.empty with
  | (.ok outcome, tree) => return ⟨source, tree, outcome.warnings⟩
  | (.error cause, _) => .error (.render cause)

/-- The warnings of a drawing, each shown with its source line. -/
def Drawn.diagnostics (drawn : Drawn) (file : String) : String :=
  String.join (drawn.warnings.map (Diagnostic.display file drawn.source))

/-- A drawing as it is printed. -/
def Drawn.print (drawn : Drawn) : Format → String
  | .html => drawn.tree.toHtml ++ "\n"
  | .outline => drawn.tree.outline

/-- Print the drawing of the block in a file. -/
def renderFile (files : Lookup) (file : String) (config : Option String) (format : Format)
    (quiet : Bool) : Report :=
  match draw files file config with
  | .error failure => failure.report
  | .ok drawn => .success (drawn.print format) (if quiet then "" else drawn.diagnostics file)

/-- Report the warnings of the block in a file. -/
def checkFile (files : Lookup) (file : String) (config : Option String) : Report :=
  match draw files file config with
  | .error failure => failure.report
  | .ok drawn =>
    if drawn.warnings.isEmpty then .success "" (reportLine ("ok: " ++ file ++ " has no warnings"))
    else
      .failure (drawn.diagnostics file ++
        reportLine (file ++ ": " ++ toString drawn.warnings.length ++ " warning(s)"))

/-- Run a command. -/
def run (files : Lookup) : Command → Report
  | .render file config format quiet => renderFile files file config format quiet
  | .check file config => checkFile files file config
  | .test path categories color =>
    Fixture.run Fixture.Verdict.ofFile color path categories (files path)
  | .listCategories path => Fixture.listCategories path (files path)

/-- The paths that a command may look up. -/
def paths : Command → List String
  | .render file config _ _ | .check file config => config.toList ++ [file]
  | .test path _ _ | .listCategories path => [path]

/-- The report on a command line that gives no command. -/
def Stop.report (stop : Stop) : Report :=
  match stop.ending with
  | .help => .success (stop.verb.elim overview Verb.usage) ""
  | .version => .success (reportLine (programName ++ " " ++ version)) ""
  | .misuse => ⟨2, "", misuseMessage⟩

/-- Run a command line. -/
def runArguments (files : Lookup) (args : List String) : Report :=
  match ofArguments args with
  | .ok command => command.run files
  | .error stop => stop.report

end Command
end Colloquy
