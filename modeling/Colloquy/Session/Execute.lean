import Colloquy.Script
import Colloquy.Session.Basic

/-!
# Executing lines

Executing a line changes the session and says what is to be drawn. A message takes with it what
is in force when its line is reached: the title and identity of its side, the default footer, and
whether footers go through markdown. Nothing here fails; a setting line with a value outside its
grammar is reported as a fault and leaves the session as it was.
-/

namespace Colloquy

/-- A message as its line left it. -/
structure MessageInstruction where
  side : Side
  content : String
  /-- The title of the side when the line was reached. -/
  title : String
  /-- The enforced identity, or the ordinal of the title as a decimal number. -/
  id : Option String
  /-- The footer to attach when no other footer follows. -/
  defaultFooter : Option String
  /-- Whether a footer of this message goes through the markdown renderer. -/
  markdownFooter : Bool
  span : Span
  deriving DecidableEq, Repr

/-- What is to be drawn for a line. -/
inductive Instruction where
  | message (message : MessageInstruction)
  | comment (content : String)
  | delimiter
  | unparsed (content : String)
  deriving DecidableEq, Repr

/-- What a line asks for besides its change to the session. -/
inductive Step where
  /-- Nothing more. -/
  | nothing
  /-- To be drawn. -/
  | render (instruction : Instruction)
  /-- The footer for the message on the line before. -/
  | attachFooter (content : String)
  deriving DecidableEq, Repr

/-- The outcome of executing a line. -/
structure Effect where
  session : Session
  step : Step
  fault : Option Fault
  deriving DecidableEq, Repr

/-- A problem with a line that does not stop the drawing. -/
structure Warning where
  message : String
  span : Span
  /-- The number of the source that the span points into. -/
  sourceId : Nat
  deriving DecidableEq, Repr

namespace Fault

/-- The warning for a fault of a line. -/
def warning (fault : Fault) (span : Span) (sourceId : Nat) : Warning :=
  ⟨fault.message, span, sourceId⟩

end Fault

namespace Session

/-- Give a setting a new value, or keep the session and say what is wrong with the value. -/
def applySetting (session : Session) (setting : Setting) (value : String) :
    Session × Option Fault :=
  match session.presentation.set setting value with
  | .ok presentation => ({ session with presentation }, none)
  | .error fault => (session, some fault)

/-- The message that a side's line stands for, once its title is registered. -/
def messageOf (session : Session) (side : Side) (content : String) (span : Span) :
    MessageInstruction :=
  let participant := session.participants.get side
  let ordinal := session.registry.ordinal? participant.title
  { side, content, span
    title := participant.title
    id := participant.enforcedId <|> ordinal.map toString
    defaultFooter := session.defaultFooter? side
    markdownFooter := session.presentation.markdown.footer }

/-- Execute one line. -/
def execute (session : Session) (line : Line) : Effect :=
  match line.directive with
  | .title side title enforcedId => ⟨session.retitle side title enforcedId, .nothing, none⟩
  | .footerDefault side content =>
    ⟨{ session with footers := session.footers.set side content }, .nothing, none⟩
  | .setting setting value =>
    let (session, fault) := session.applySetting setting value
    ⟨session, .nothing, fault⟩
  | .delimiter => ⟨session, .render .delimiter, none⟩
  | .comment content => ⟨session, .render (.comment content), none⟩
  | .message side content =>
    let session := session.register (session.participants.get side).title
    ⟨session, .render (.message (session.messageOf side content line.span)), none⟩
  | .footerAttachment content => ⟨session, .attachFooter content, none⟩
  | .unparsed content =>
    if session.presentation.clean then ⟨session, .nothing, none⟩
    else ⟨session, .render (.unparsed content), none⟩

end Session
end Colloquy
