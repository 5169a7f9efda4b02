import Colloquy.Directive.Setting

/-!
# Presentation

The values of the nine settings that are in force at some point of a block. A new value for a
mode has to be the name of a mode; any other value is a fault and changes nothing.
-/

namespace Colloquy

/-- Which texts go through the markdown renderer. -/
structure MarkdownToggles where
  title : Bool
  content : Bool
  footer : Bool
  comment : Bool
  deriving DecidableEq, Repr

/-- The values of all settings. -/
structure Presentation where
  titleMode : TitleMode
  footerMode : FooterMode
  /-- Whether lines of no known shape are dropped. -/
  clean : Bool
  markdown : MarkdownToggles
  /-- The CSS length that limits the width of a message. -/
  messageMaxWidth : String
  /-- The CSS length that limits the width of a comment. -/
  commentMaxWidth : String
  deriving DecidableEq, Repr

/-- A line that asks for something that cannot be done. -/
inductive Fault where
  /-- A mode setting is given a value that names no mode. -/
  | unknownMode (setting : Setting) (value : String) (expected : List String)
  /-- A footer attachment has no message before it. -/
  | danglingFooter
  deriving DecidableEq, Repr

namespace Fault

/-- The text in which a fault is reported. -/
def message : Fault → String
  | .unknownMode setting value expected =>
    "unknown " ++ setting.keyword ++ " value '" ++ value ++ "' (expected one of: " ++
      ", ".intercalate expected ++ "); keeping the previous value"
  | .danglingFooter => "footer attachment does not directly follow a message; ignored"

end Fault

namespace Presentation

/-- No titles hidden, no footers, nothing through markdown, and widths of `60%`. -/
def default : Presentation :=
  ⟨.first, .disabled, false, ⟨false, false, false, false⟩, "60%", "60%"⟩

/-- Give a setting a new value. -/
def set (presentation : Presentation) (setting : Setting) (value : String) :
    Except Fault Presentation :=
  match setting with
  | .titleMode =>
    match TitleMode.ofName? value with
    | some mode => .ok { presentation with titleMode := mode }
    | none => .error (.unknownMode setting value (TitleMode.values.map TitleMode.name))
  | .footerMode =>
    match FooterMode.ofName? value with
    | some mode => .ok { presentation with footerMode := mode }
    | none => .error (.unknownMode setting value (FooterMode.values.map FooterMode.name))
  | .messageMaxWidth => .ok { presentation with messageMaxWidth := value }
  | .commentMaxWidth => .ok { presentation with commentMaxWidth := value }
  | .clean => .ok { presentation with clean := parseToggle value }
  | .renderMarkdownTitle =>
    .ok { presentation with markdown := { presentation.markdown with title := parseToggle value } }
  | .renderMarkdownContent =>
    .ok { presentation with
      markdown := { presentation.markdown with content := parseToggle value } }
  | .renderMarkdownFooter =>
    .ok { presentation with markdown := { presentation.markdown with footer := parseToggle value } }
  | .renderMarkdownComment =>
    .ok { presentation with
      markdown := { presentation.markdown with comment := parseToggle value } }

end Presentation
end Colloquy
