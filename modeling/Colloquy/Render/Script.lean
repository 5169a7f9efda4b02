import Colloquy.Render.Instruction
import Colloquy.Render.PendingFooter

/-!
# Drawing scripts

A script is drawn line by line under one wrapper. Each line is executed, then drawn; then it
settles the footer of the message before it; and if it is a message itself, it waits for a footer
in turn. The end of the script settles the last footer.

Warnings are kept in the order of their lines.
-/

namespace Colloquy

/-- What a drawing gives besides the nodes. -/
structure Outcome where
  warnings : List Warning
  registry : Registry
  deriving DecidableEq, Repr

/-- Where the drawing of a script has got to. -/
structure Progress where
  session : Session
  pending : PendingFooter
  warnings : List Warning
  deriving DecidableEq, Repr

namespace Step

/-- The explicit footer that a step brings. -/
def attachment? : Step → Option String
  | .attachFooter content => some content
  | _ => none

end Step

namespace Session

/-- Draw what a step asks for: the session afterwards and the message that waits for a footer. -/
def drawStep (session : Session) (wrapper : NodeId) : Step → Drawing (Session × PendingFooter)
  | .render (.message message) => do
    let (session, bubble) ← session.draw wrapper (.message message)
    return (session, bubble.map fun bubble ↦
      ⟨bubble, message.defaultFooter, message.markdownFooter, message.span⟩)
  | .render instruction => do
    let (session, _) ← session.draw wrapper instruction
    return (session, none)
  | _ => return (session, none)

end Session

/-- Attach the footer of a message, if it gets one. -/
def settleFooter (pending : PendingFooter) (explicit : Option String) : Drawing Unit :=
  match pending.resolve explicit with
  | some (message, footer) => do
    let _ ← drawFooter message.bubble footer message.markdown
  | none => return ()

namespace Progress

/-- The faults of a line: that of its execution, and an attachment that finds no message. -/
def faults (progress : Progress) (effect : Effect) : List Fault :=
  effect.fault.toList ++
    if effect.step.attachment?.isSome ∧ progress.pending.isNone then [.danglingFooter] else []

/-- Execute and draw one line. -/
def drawLine (wrapper : NodeId) (sourceId : Nat) (progress : Progress) (line : Line) :
    Drawing Progress := do
  let effect := progress.session.execute line
  let (session, pending) ← effect.session.drawStep wrapper effect.step
  settleFooter progress.pending effect.step.attachment?
  let warnings := (progress.faults effect).map (·.warning line.span sourceId)
  return ⟨session, pending, progress.warnings ++ warnings⟩

end Progress

namespace Script

/-- Draw a script under a root node. -/
def draw (script : Script) (config : Config) (root : NodeId) : Drawing Outcome := do
  let wrapper ← Drawing.newChild root .wrapper [Classes.dialogueWrapper]
  let start : Progress := ⟨.ofConfig config, none, []⟩
  let progress ← script.lines.foldlM (Progress.drawLine wrapper script.sourceId) start
  settleFooter progress.pending none
  return ⟨progress.warnings, progress.session.registry⟩

variable {σ : Type}

/-- Draw a script under the root of a sink. -/
def render (script : Script) (config : Config) (sink : Sink σ) (markdown : MarkdownRenderer σ)
    (context : MarkdownContext) : Action σ Outcome := do
  let root := sink.root (← get)
  (script.draw config root).perform sink markdown context

end Script

/-- Read a block and draw it under the root of a sink. -/
def renderDialogue {σ : Type} (source : String) (config : Config) (sink : Sink σ)
    (markdown : MarkdownRenderer σ) (context : MarkdownContext) : Action σ Outcome :=
  (Script.parse source 0).render config sink markdown context

/-- Draw blocks one after another, each on the state that the one before it left, once that is
prepared. A block that fails does not keep the next from being drawn. The results come with the
states after them. -/
def renderEach {σ : Type} (prepare : σ → σ) (config : Config) (sink : Sink σ)
    (markdown : MarkdownRenderer σ) (context : MarkdownContext) :
    List String → σ → List (Except RenderError Outcome × σ)
  | [], _ => []
  | source :: rest, state =>
    let (result, after) := renderDialogue source config sink markdown context (prepare state)
    (result, after) :: renderEach prepare config sink markdown context rest after

end Colloquy
