import Colloquy.Proofs.Frontier
import Colloquy.Proofs.Performance
import Colloquy.Render.Script

/-!
# Rehearsals of drawings

A drawing can be rehearsed on the frontier of a tree: the handles that it is given are known from
the size, changes and markdown leave the frontier alone, and the frontier says what a new element
does to it. So a rehearsal tells of every performance what its result is and whether the tree is in
document order afterwards, whatever the sink and the markdown renderer do besides.
-/

namespace Colloquy

variable {α β σ : Type}

namespace Drawing

/-- The result of a drawing over a tree, and the frontier that it leaves. -/
def rehearse : Drawing α → Frontier → α × Frontier
  | .done result, frontier => (result, frontier)
  | .create parent _ _ next, frontier => (next ⟨frontier.size⟩).rehearse (frontier.create parent)
  | .edit _ _ next, frontier => next.rehearse frontier
  | .markdown _ _ next, frontier => next.rehearse frontier

@[simp]
theorem rehearse_pure (result : α) (frontier : Frontier) :
    (pure result : Drawing α).rehearse frontier = (result, frontier) := rfl

/-- Going on is rehearsed on the frontier that the first drawing leaves. -/
@[simp]
theorem rehearse_bind (drawing : Drawing α) (f : α → Drawing β) (frontier : Frontier) :
    (drawing >>= f).rehearse frontier =
      (f (drawing.rehearse frontier).1).rehearse (drawing.rehearse frontier).2 := by
  change (drawing.bind f).rehearse frontier = _
  induction drawing generalizing frontier with
  | done result => rfl
  | create parent role classes next ih => exact ih _ _
  | edit node change next ih => exact ih frontier
  | markdown source target next ih => exact ih frontier

@[simp]
theorem rehearse_newChild (parent : NodeId) (role : Role) (classes : List String)
    (frontier : Frontier) :
    (newChild parent role classes).rehearse frontier =
      (⟨frontier.size⟩, frontier.create parent) := rfl

@[simp]
theorem rehearse_change (node : NodeId) (edit : Edit) (frontier : Frontier) :
    (change node edit).rehearse frontier = ((), frontier) := rfl

@[simp]
theorem rehearse_renderMarkdown (source : String) (target : NodeId) (frontier : Frontier) :
    (renderMarkdown source target).rehearse frontier = ((), frontier) := rfl

/-- No drawing restores a broken order. -/
theorem trail?_rehearse_of_eq_none (drawing : Drawing α) {frontier : Frontier}
    (h : frontier.trail? = none) : (drawing.rehearse frontier).2.trail? = none := by
  induction drawing generalizing frontier with
  | done result => exact h
  | create parent role classes next ih => exact ih _ (Frontier.trail?_create_of_eq_none h parent)
  | edit node change next ih => exact ih h
  | markdown source target next ih => exact ih h

/-- No drawing makes a tree smaller. -/
theorem size_le_rehearse (drawing : Drawing α) (frontier : Frontier) :
    frontier.size ≤ (drawing.rehearse frontier).2.size := by
  induction drawing generalizing frontier with
  | done result => exact Nat.le_refl _
  | create parent role classes next ih => exact Nat.le_of_succ_le (ih _ (frontier.create parent))
  | edit node change next ih => exact ih frontier
  | markdown source target next ih => exact ih frontier

/-- A rehearsal has one of the results of its drawing. -/
theorem Always.rehearsed {post : α → Prop} {drawing : Drawing α} (h : drawing.Always post)
    (frontier : Frontier) : post (drawing.rehearse frontier).1 := by
  induction drawing generalizing frontier with
  | done result => exact h
  | create parent role classes next ih => exact ih _ (h _) _
  | edit node change next ih => exact ih h frontier
  | markdown source target next ih => exact ih h frontier

/-- What a drawing ensures at all it ensures with the result and the frontier of its rehearsal. -/
theorem Ensures.rehearsed {allowed : String → Option Content → Prop}
    {post : α → ElementTree → Prop} {drawing : Drawing α} {tree : ElementTree}
    (h : drawing.Ensures allowed post tree) (htree : tree.Grown) (hcounted : tree.Counted) :
    drawing.Ensures allowed
      (fun result after ↦ (result, after.frontier) = drawing.rehearse tree.frontier) tree := by
  induction drawing generalizing tree with
  | done result => rfl
  | create parent role classes next ih =>
    obtain ⟨hparent, hnext⟩ := h
    have hrest := ih _ hnext (htree.adopt hparent rfl) (hcounted.adopt htree hparent rfl)
    rw [hcounted.frontier_adopt htree parent rfl] at hrest
    exact ⟨hparent, hrest⟩
  | edit node change next ih =>
    obtain ⟨hnode, hnext⟩ := h
    have hchildren := fun element ↦ Element.children_apply element change
    have hrest := ih hnext (htree.modify node hchildren) (hcounted.modify node hchildren)
    rw [ElementTree.frontier_modify tree node hchildren] at hrest
    exact ⟨hnode, hrest⟩
  | markdown source target next ih =>
    obtain ⟨hblank, hnext⟩ := h
    refine ⟨hblank, fun content hallowed ↦ ?_⟩
    have hchildren : ∀ element : Element, (element.fill content).children = element.children :=
      fun _ ↦ rfl
    have hrest := ih (hnext content hallowed) (htree.modify target hchildren)
      (hcounted.modify target hchildren)
    rwa [ElementTree.frontier_modify tree target hchildren] at hrest

end Drawing

open Drawing

/-! ### Instructions -/

/-- A text is rehearsed as one new child. -/
@[simp]
theorem rehearse_drawText (parent : NodeId) (role : Role) (className text : String)
    (markdown : Bool) (frontier : Frontier) :
    (drawText parent role className text markdown).rehearse frontier =
      (⟨frontier.size⟩, frontier.create parent) := by
  unfold drawText
  cases markdown with
  | false =>
    simp only [Bool.false_eq_true, if_false, rehearse_bind, rehearse_newChild, rehearse_change,
      rehearse_pure]
  | true =>
    simp only [if_true, rehearse_bind, rehearse_newChild, rehearse_renderMarkdown, rehearse_pure]

/-- Attributes leave the frontier alone. -/
@[simp]
theorem rehearse_attributes (node : NodeId) (attributes : Properties) (frontier : Frontier) :
    (attributes.forM fun entry ↦ change node (.attribute entry.1 entry.2)).rehearse frontier =
      ((), frontier) := by
  induction attributes with
  | nil => rfl
  | cons entry rest ih =>
    rw [List.forM_eq_forM, List.forM_cons, rehearse_bind]
    exact ih

/-- The frame of a message is rehearsed as a wrapper and the box in it. -/
@[simp]
theorem rehearse_drawFrame (wrapper : NodeId) (presentation : Presentation)
    (message : MessageInstruction) (frontier : Frontier) :
    (drawFrame wrapper presentation message).rehearse frontier =
      (⟨frontier.size + 1⟩, (frontier.create wrapper).create ⟨frontier.size⟩) := by
  have hattributes := rehearse_attributes ⟨frontier.size⟩ message.attributes
    (frontier.create wrapper)
  simp only [drawFrame, rehearse_bind, rehearse_newChild, rehearse_change, rehearse_pure]
  rw [hattributes]
  simp only [Frontier.size_create]

/-- A box is filled with a title, if it is shown, and the content. -/
@[simp]
theorem rehearse_fillBubble (bubble : NodeId) (toggles : MarkdownToggles)
    (message : MessageInstruction) (showsTitle : Bool) (frontier : Frontier) :
    (fillBubble bubble toggles message showsTitle).rehearse frontier =
      ((), if showsTitle then (frontier.create bubble).create bubble
        else frontier.create bubble) := by
  unfold fillBubble
  cases showsTitle with
  | false =>
    simp only [Bool.false_eq_true, if_false, rehearse_bind, rehearse_drawText, rehearse_pure]
  | true => simp only [if_true, rehearse_bind, rehearse_drawText, rehearse_pure]

/-- A comment is rehearsed as a wrapper and the text in it. -/
@[simp]
theorem rehearse_drawComment (wrapper : NodeId) (presentation : Presentation) (content : String)
    (frontier : Frontier) :
    (drawComment wrapper presentation content).rehearse frontier =
      ((), (frontier.create wrapper).create ⟨frontier.size⟩) := by
  simp only [drawComment, rehearse_bind, rehearse_newChild, rehearse_drawText, rehearse_change]

/-- A delimiter is rehearsed as a wrapper, a row in it and three dots in the row. -/
@[simp]
theorem rehearse_drawDelimiter (wrapper : NodeId) (frontier : Frontier) :
    (drawDelimiter wrapper).rehearse frontier =
      let row := (frontier.create wrapper).create ⟨frontier.size⟩
      let node : NodeId := ⟨frontier.size + 1⟩
      ((), ((row.create node).create node).create node) := rfl

/-- A line of no known shape is rehearsed as one new child. -/
@[simp]
theorem rehearse_drawUnparsed (wrapper : NodeId) (content : String) (frontier : Frontier) :
    (drawUnparsed wrapper content).rehearse frontier = ((), frontier.create wrapper) := rfl

/-- A footer is rehearsed as one new child of the box that it goes into, if there is a footer. -/
@[simp]
theorem rehearse_settleFooter (pending : PendingFooter) (explicit : Option String)
    (frontier : Frontier) :
    (settleFooter pending explicit).rehearse frontier =
      ((), (pending.resolve explicit).elim frontier fun settled ↦
        frontier.create settled.1.bubble) := by
  rw [settleFooter]
  cases pending.resolve explicit with
  | none => rfl
  | some settled =>
    simp only [drawFooter, rehearse_bind, rehearse_drawText, rehearse_pure, Option.elim_some]

/-- A default footer that waits is drawn in its box, unless there is an explicit one. -/
theorem rehearse_settleFooter_some {message : PendingMessage} {footer : String}
    (h : message.defaultFooter = some footer) (frontier : Frontier) :
    (settleFooter (some message) none).rehearse frontier =
      ((), frontier.create message.bubble) := by
  have hresolve : PendingFooter.resolve (some message) none = some (message, footer) :=
    PendingFooter.resolve_eq_some_iff.mpr ⟨rfl, h⟩
  rw [rehearse_settleFooter, hresolve, Option.elim_some]

/-- Where no default footer waits there is nothing to draw, unless there is an explicit one. -/
theorem rehearse_settleFooter_none {pending : PendingFooter}
    (h : pending.bind (·.defaultFooter) = none) (frontier : Frontier) :
    (settleFooter pending none).rehearse frontier = ((), frontier) := by
  have hresolve : pending.resolve none = none := by
    rw [Option.eq_none_iff_forall_ne_some]
    rintro ⟨message, footer⟩ hsettled
    obtain ⟨rfl, hdefault⟩ := PendingFooter.resolve_eq_some_iff.mp hsettled
    cases hdefault.symm.trans h
  rw [rehearse_settleFooter, hresolve, Option.elim_none]

end Colloquy
