import Colloquy.Render.Classes
import Colloquy.Session.Execute
import Colloquy.Sink.Drawing

/-!
# Drawing instructions

What is drawn for a message, a comment, a delimiter, an unparsed line and a footer. A message is
drawn in two parts. Its frame is the wrapper with the participant's attributes and the empty
message box; then the session remembers that the title was shown, and only then do title and
content go into the box.
-/

namespace Colloquy

open Drawing

/-- A new child that shows a text, either verbatim or through the markdown renderer. -/
def drawText (parent : NodeId) (role : Role) (className : String) (text : String)
    (markdown : Bool) : Drawing NodeId :=
  if markdown then do
    let node ← newChild parent role [className, Classes.render]
    renderMarkdown text node
    return node
  else do
    let node ← newChild parent role [className]
    change node (.text text)
    return node

/-- The attributes that name the participant of a message. -/
def MessageInstruction.attributes (message : MessageInstruction) : List (String × String) :=
  (if message.title = "" then [] else [("data-participant", message.title)]) ++
    message.id.toList.map fun id ↦ ("data-participant-id", id)

/-- The wrapper and the empty box of a message; the result is the box. -/
def drawFrame (wrapper : NodeId) (presentation : Presentation) (message : MessageInstruction) :
    Drawing NodeId := do
  let outer ← newChild wrapper (.message message.side)
    [Classes.blockWrapper, Classes.messageWrapper message.side]
  message.attributes.forM fun (name, value) ↦ change outer (.attribute name value)
  let bubble ← newChild outer .bubble [Classes.message]
  change bubble (.style "max-width" presentation.messageMaxWidth)
  return bubble

/-- The title, if it is shown, and the content in the box of a message. -/
def fillBubble (bubble : NodeId) (toggles : MarkdownToggles) (message : MessageInstruction)
    (showsTitle : Bool) : Drawing Unit := do
  if showsTitle then
    let _ ← drawText bubble .title Classes.messageTitle message.title toggles.title
  let _ ← drawText bubble .content Classes.messageContent message.content toggles.content

/-- A footer in the box of a message. -/
def drawFooter (bubble : NodeId) (content : String) (markdown : Bool) : Drawing NodeId :=
  drawText bubble .footer Classes.messageFooter content markdown

/-- A comment in its wrapper. -/
def drawComment (wrapper : NodeId) (presentation : Presentation) (content : String) :
    Drawing Unit := do
  let outer ← newChild wrapper .comment [Classes.blockWrapper, Classes.commentWrapper]
  let body ← drawText outer .commentBody Classes.comment content presentation.markdown.comment
  change body (.style "max-width" presentation.commentMaxWidth)

/-- A row of three dots. -/
def drawDelimiter (wrapper : NodeId) : Drawing Unit := do
  let outer ← newChild wrapper .delimiter [Classes.blockWrapper, Classes.delimiterWrapper]
  let row ← newChild outer .delimiterLine [Classes.delimiter]
  (List.range 3).forM fun _ ↦ do
    let _ ← newChild row .delimiterDot [Classes.delimiterDot]

/-- A line of no known shape, as it is. -/
def drawUnparsed (wrapper : NodeId) (content : String) : Drawing Unit := do
  let node ← newChild wrapper .unparsed [Classes.unparsed]
  change node (.text content)

namespace Session

/-- Draw an instruction: the session afterwards and, for a message, the box that a footer goes
into. -/
def draw (session : Session) (wrapper : NodeId) :
    Instruction → Drawing (Session × Option NodeId)
  | .message message => do
    let mode := session.presentation.titleMode
    let bubble ← drawFrame wrapper session.presentation message
    fillBubble bubble session.presentation.markdown message (session.showsTitle message.side mode)
    return (session.afterMessage message.side mode, some bubble)
  | .comment content => do
    drawComment wrapper session.presentation content
    return (session, none)
  | .delimiter => do
    drawDelimiter wrapper
    return (session, none)
  | .unparsed content => do
    drawUnparsed wrapper content
    return (session, none)

variable {σ : Type}

/-- Draw one instruction by itself. The session is kept even when the drawing stops: once the
frame of a message is there, the session has the showing of its title on record. -/
def dispatch (session : Session) (sink : Sink σ) (markdown : MarkdownRenderer σ)
    (context : MarkdownContext) (wrapper : NodeId) (instruction : Instruction) (state : σ) :
    Except RenderError (Option NodeId) × Session × σ :=
  match instruction with
  | .message message =>
    let frame := drawFrame wrapper session.presentation message
    match frame.perform sink markdown context state with
    | (.error e, state) => (.error e, session, state)
    | (.ok bubble, state) =>
      let mode := session.presentation.titleMode
      let filling := fillBubble bubble session.presentation.markdown message
        (session.showsTitle message.side mode)
      let (result, state) := filling.perform sink markdown context state
      (result.map fun _ ↦ some bubble, session.afterMessage message.side mode, state)
  | other =>
    let (result, state) := (session.draw wrapper other).perform sink markdown context state
    (result.map Prod.snd, session, state)

end Session
end Colloquy
