import Colloquy.Sink.Basic

/-!
# Drawings

A drawing is a plan of requests: to create a node, to edit one, or to have markdown rendered into
one. What is planned next may depend on the handles of the nodes created so far and on nothing
else that a sink does. Performing a drawing sends its requests, in order, to a sink and a markdown
renderer, and stops at the first that is refused.

Statements about every sink are therefore statements about drawings: two equal drawings send the
same requests to every sink.
-/

namespace Colloquy

/-- A plan of requests that ends in a result. -/
inductive Drawing (α : Type) where
  | done (result : α)
  | create (parent : NodeId) (role : Role) (classes : List String) (next : NodeId → Drawing α)
  | edit (node : NodeId) (edit : Edit) (next : Drawing α)
  | markdown (source : String) (target : NodeId) (next : Drawing α)

namespace Drawing

variable {α β γ σ : Type}

/-- Go on with a drawing that depends on the result. -/
def bind : Drawing α → (α → Drawing β) → Drawing β
  | .done result, f => f result
  | .create parent role classes next, f => .create parent role classes fun node ↦ (next node).bind f
  | .edit node change next, f => .edit node change (next.bind f)
  | .markdown source target next, f => .markdown source target (next.bind f)

instance : Monad Drawing where
  pure := .done
  bind := bind

/-- Plan a new child of a node. -/
def newChild (parent : NodeId) (role : Role) (classes : List String) : Drawing NodeId :=
  .create parent role classes .done

/-- Plan a change to a node. -/
def change (node : NodeId) (edit : Edit) : Drawing Unit := .edit node edit (.done ())

/-- Plan markdown for a node. -/
def renderMarkdown (source : String) (target : NodeId) : Drawing Unit :=
  .markdown source target (.done ())

/-- Send the requests of a drawing to a sink and a markdown renderer. -/
def perform (sink : Sink σ) (markdown : MarkdownRenderer σ) (context : MarkdownContext) :
    Drawing α → Action σ α
  | .done result => pure result
  | .create parent role classes next => do
    let node ← sink.create parent role classes
    (next node).perform sink markdown context
  | .edit node change next => do
    sink.edit node change
    next.perform sink markdown context
  | .markdown source target next => do
    markdown source target context
    next.perform sink markdown context

/-- Going on with the bare result changes nothing. -/
theorem bind_done (drawing : Drawing α) : drawing.bind .done = drawing := by
  induction drawing with
  | done result => rfl
  | create parent role classes next ih => simp only [bind, ih]
  | edit node change next ih => simp only [bind, ih]
  | markdown source target next ih => simp only [bind, ih]

/-- Going on twice is going on once with both. -/
theorem bind_assoc (drawing : Drawing α) (f : α → Drawing β) (g : β → Drawing γ) :
    (drawing.bind f).bind g = drawing.bind fun a ↦ (f a).bind g := by
  induction drawing with
  | done result => rfl
  | create parent role classes next ih => simp only [bind, ih]
  | edit node change next ih => simp only [bind, ih]
  | markdown source target next ih => simp only [bind, ih]

instance : LawfulMonad Drawing :=
  LawfulMonad.mk' Drawing
    (fun drawing ↦ bind_done drawing)
    (fun _ _ ↦ rfl)
    (fun drawing f g ↦ bind_assoc drawing f g)

end Drawing
end Colloquy
