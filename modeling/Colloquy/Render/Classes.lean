import Colloquy.Side

/-!
# Style classes

The class names put on drawn nodes, for the style sheets of a host.
-/

namespace Colloquy.Classes

/-- The node above everything else of a block. -/
def dialogueWrapper : String := "dialogue-plugin-wrapper"

/-- The outermost node of a message, a comment or a delimiter. -/
def blockWrapper : String := "dialogue-plugin-block-wrapper"

/-- The outermost node of a message, by side. -/
def messageWrapper (side : Side) : String := "dialogue-plugin-message-wrapper-" ++ side.name

/-- The message box. -/
def message : String := "dialogue-plugin-message"

/-- The title in a message box. -/
def messageTitle : String := "dialogue-plugin-message-title"

/-- The content in a message box. -/
def messageContent : String := "dialogue-plugin-message-content"

/-- The footer in a message box. -/
def messageFooter : String := "dialogue-plugin-message-footer"

/-- The outermost node of a delimiter. -/
def delimiterWrapper : String := "dialogue-plugin-delimiter-wrapper"

/-- The row of dots in a delimiter. -/
def delimiter : String := "dialogue-plugin-delimiter"

/-- One dot. -/
def delimiterDot : String := "dialogue-plugin-delimiter-dot"

/-- The outermost node of a comment. -/
def commentWrapper : String := "dialogue-plugin-comment-wrapper"

/-- The text of a comment. -/
def comment : String := "dialogue-plugin-comment"

/-- A node whose content went through the markdown renderer. -/
def render : String := "dialogue-plugin-render"

/-- A line of no known shape. -/
def unparsed : String := "dialogue-plugin-unparsed"

end Colloquy.Classes
