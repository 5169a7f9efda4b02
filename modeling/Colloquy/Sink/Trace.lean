import Colloquy.Sink.Basic

/-!
# Traced sinks

A traced sink keeps a log of the calls it accepts beside the state of the sink it passes them to,
and may be told to refuse the call of one index. A recorded markdown renderer keeps a log of what
it is asked to render.
-/

namespace Colloquy

variable {σ τ : Type}

namespace Action

/-- Act on the second part of a pair and leave the first alone. -/
def onSecond {α : Type} (action : Action σ α) : Action (τ × σ) α :=
  fun (first, second) ↦
    let (result, after) := action second
    (result, (first, after))

end Action

namespace SinkCall

/-- Pass a call on to a sink. -/
def send (sink : Sink σ) : SinkCall → Action σ Unit
  | .create parent role classes => do
    let _ ← sink.create parent role classes
  | .edit node change => sink.edit node change

end SinkCall

/-- A call to be refused: how many calls were accepted before it, and the error it is refused
with. -/
structure Refusal where
  index : Nat
  error : RenderError
  deriving DecidableEq, Repr

namespace Sink

/-- The same sink, with a further value kept beside its state. -/
def beside (τ : Type) (sink : Sink σ) : Sink (τ × σ) where
  root := fun (_, state) ↦ sink.root state
  create := fun parent role classes ↦ (sink.create parent role classes).onSecond
  edit := fun node change ↦ (sink.edit node change).onSecond

/-- Log a call and act on the sink, unless the call is the one to be refused. -/
def logged {α : Type} (refusal : Option Refusal) (call : SinkCall) (action : Action σ α) :
    Action (List SinkCall × σ) α := do
  let (log, _) ← get
  match refusal with
  | some refusal => if refusal.index = log.length then throw refusal.error
  | none => pure ()
  modify fun (log, state) ↦ (log ++ [call], state)
  action.onSecond

/-- A sink that logs each call before passing it on. A refused call is not logged. -/
def traced (refusal : Option Refusal) (sink : Sink σ) : Sink (List SinkCall × σ) where
  root := fun (_, state) ↦ sink.root state
  create := fun parent role classes ↦
    logged refusal (.create parent role classes) (sink.create parent role classes)
  edit := fun node change ↦ logged refusal (.edit node change) (sink.edit node change)

end Sink

/-- A request to a markdown renderer. -/
structure MarkdownCall where
  source : String
  target : NodeId
  context : MarkdownContext
  deriving DecidableEq, Repr

namespace MarkdownRenderer

/-- A markdown renderer that logs each request before answering it. -/
def recorded (markdown : MarkdownRenderer σ) : MarkdownRenderer (List MarkdownCall × σ) :=
  fun source target context ↦ do
    modify fun (log, state) ↦ (log ++ [⟨source, target, context⟩], state)
    (markdown source target context).onSecond

end MarkdownRenderer
end Colloquy
