import Colloquy.Directive.Setting
import Colloquy.Side

/-!
# Directives

A directive is the meaning of one line of a dialogue block.
-/

namespace Colloquy

/-- The meaning of one line. -/
inductive Directive where
  /-- Names the participant of a side, with an identity of its own if one is given. -/
  | title (side : Side) (title : String) (enforcedId : Option String)
  /-- The footer that messages of a side get by default. -/
  | footerDefault (side : Side) (content : String)
  /-- A new value for a setting. -/
  | setting (setting : Setting) (value : String)
  /-- A row of dots between messages. -/
  | delimiter
  /-- A remark outside the conversation. -/
  | comment (content : String)
  /-- A message of a side. -/
  | message (side : Side) (content : String)
  /-- The footer of the message on the line before. -/
  | footerAttachment (content : String)
  /-- A line of no known shape, kept as it is. -/
  | unparsed (content : String)
  deriving DecidableEq, Repr

namespace Directive

/-- The name of the kind of directive. -/
def kindName : Directive → String
  | .title .. => "title"
  | .footerDefault .. => "footer default"
  | .setting .. => "setting"
  | .delimiter => "delimiter"
  | .comment _ => "comment"
  | .message .. => "message"
  | .footerAttachment _ => "footer attachment"
  | .unparsed _ => "unparsed"

end Directive
end Colloquy
