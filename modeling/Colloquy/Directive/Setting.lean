/-!
# Settings

A setting is a named value that a block can change from one of its lines on. Two settings name
a mode out of a short list, two hold a CSS length as it was written, and five are switches.
-/

namespace Colloquy

/-- How participant titles are shown above messages. -/
inductive TitleMode where
  /-- No message shows a title. -/
  | disabled
  /-- Every message shows its title. -/
  | all
  /-- The first message after a title was assigned shows it. -/
  | first
  deriving DecidableEq, Repr

namespace TitleMode

/-- Every mode, in the order in which modes are listed. -/
def values : List TitleMode := [.disabled, .all, .first]

/-- The name of the mode. -/
def name : TitleMode → String
  | .disabled => "disabled"
  | .all => "all"
  | .first => "first"

/-- The label of the mode, from which configuration files take their name for it. -/
def label : TitleMode → String
  | .disabled => "Disabled"
  | .all => "All"
  | .first => "First"

/-- The mode of that exact name. -/
def ofName? (text : String) : Option TitleMode := values.find? (·.name == text)

/-- A text is read as a mode exactly when it is the mode's name. -/
theorem ofName?_eq_some_iff {text : String} {mode : TitleMode} :
    ofName? text = some mode ↔ text = mode.name := by
  constructor
  · intro h
    have hname := List.find?_some h
    exact (beq_iff_eq.mp hname).symm
  · rintro rfl
    cases mode <;> decide

end TitleMode

/-- Whether the default footer of a side is attached to its messages. -/
inductive FooterMode where
  | disabled
  | all
  deriving DecidableEq, Repr

namespace FooterMode

/-- Every mode, in the order in which modes are listed. -/
def values : List FooterMode := [.disabled, .all]

/-- The name of the mode. -/
def name : FooterMode → String
  | .disabled => "disabled"
  | .all => "all"

/-- The label of the mode, from which configuration files take their name for it. -/
def label : FooterMode → String
  | .disabled => "Disabled"
  | .all => "All"

/-- The mode of that exact name. -/
def ofName? (text : String) : Option FooterMode := values.find? (·.name == text)

/-- A text is read as a mode exactly when it is the mode's name. -/
theorem ofName?_eq_some_iff {text : String} {mode : FooterMode} :
    ofName? text = some mode ↔ text = mode.name := by
  constructor
  · intro h
    have hname := List.find?_some h
    exact (beq_iff_eq.mp hname).symm
  · rintro rfl
    cases mode <;> decide

end FooterMode

/-- The settings that a block can change by a `keyword: value` line. -/
inductive Setting where
  | titleMode
  | footerMode
  | messageMaxWidth
  | commentMaxWidth
  | clean
  | renderMarkdownTitle
  | renderMarkdownContent
  | renderMarkdownFooter
  | renderMarkdownComment
  deriving DecidableEq, Repr

namespace Setting

/-- Every setting, in the order in which keywords are tried. -/
def all : List Setting :=
  [.titleMode, .footerMode, .messageMaxWidth, .commentMaxWidth, .clean, .renderMarkdownTitle,
    .renderMarkdownContent, .renderMarkdownFooter, .renderMarkdownComment]

/-- The keyword of the setting, without the colon. -/
def keyword : Setting → String
  | .titleMode => "titleMode"
  | .footerMode => "footerMode"
  | .messageMaxWidth => "messageMaxWidth"
  | .commentMaxWidth => "commentMaxWidth"
  | .clean => "clean"
  | .renderMarkdownTitle => "renderMarkdownTitle"
  | .renderMarkdownContent => "renderMarkdownContent"
  | .renderMarkdownFooter => "renderMarkdownFooter"
  | .renderMarkdownComment => "renderMarkdownComment"

/-- Whether values of the setting are put into lower case. The widths are CSS lengths and keep
the case in which they were written. -/
def lowercasesValue : Setting → Bool
  | .messageMaxWidth | .commentMaxWidth => false
  | _ => true

/-- Every setting is listed. -/
theorem mem_all (setting : Setting) : setting ∈ all := by
  cases setting <;> decide

end Setting

/-- The value of a switch: only `true` turns it on. -/
def parseToggle (value : String) : Bool := value == "true"

end Colloquy
