import Colloquy.Proofs.Handles
import Colloquy.Proofs.Lockstep
import Colloquy.Proofs.Lookahead

/-!
# Symmetry of the sides

The three sides are interchangeable. With the sides of a script and of its configuration relabelled,
a run over an element tree comes to the tree of the original run, in which only the wrappers of
messages have the roles and the classes of the new labels. Everything else is as before: the
handles, the texts, the warnings, the registry and what the markdown renderer is asked for. The
renderer may fail, and it may have a memory.
-/

namespace Colloquy

variable {α κ τ : Type}

/-! ### Renderers that set the content of their target -/

namespace MarkdownRenderer

/-- Asked to fill a blank node of the tree, the renderer changes nothing of the tree but the content
of that node. The reply decides, from the source, the handle of the node and the renderer's memory,
what it answers, what it remembers and what it leaves in the node. -/
def SetsContent (markdown : MarkdownRenderer (τ × ElementTree)) (context : MarkdownContext)
    (reply : String → NodeId → τ → Except RenderError Unit × τ × Option Content) : Prop :=
  ∀ ⦃source target memory tree element⦄, tree.get? target = some element →
    element.content = none →
      let (answer, after, content) := reply source target memory
      markdown source target context (memory, tree) =
        (answer, after, tree.modify target (·.fill content))

end MarkdownRenderer

/-! ### Relabelled trees -/

namespace Element

/-- Relabelling goes through a change of an element. -/
theorem relabel_apply (p : Equiv.Perm Side) (element : Element) (change : Edit) :
    (element.apply change).relabel p = (element.relabel p).apply change := by
  cases change <;> rfl

/-- Relabelling goes through a change of the content. -/
theorem relabel_fill (p : Equiv.Perm Side) (element : Element) (content : Option Content) :
    (element.fill content).relabel p = (element.relabel p).fill content := rfl

end Element

namespace ElementTree

/-- Filling a blank node with nothing changes nothing. -/
theorem modify_fill_none {tree : ElementTree} {node : NodeId} {element : Element}
    (hget : tree.get? node = some element) (hcontent : element.content = none) :
    tree.modify node (·.fill none) = tree := by
  apply ext_get?
  intro other
  rw [get?_modify]
  split
  · next hother =>
    rw [hother, hget, Option.map_some, Element.fill, ← hcontent]
  · rfl

/-- The tree with its elements relabelled from the one of a number on. -/
def relabelFrom (tree : ElementTree) (bound : Nat) (p : Equiv.Perm Side) : ElementTree :=
  ⟨tree.elements.mapIdx fun i element ↦ if i < bound then element else element.relabel p⟩

variable {p : Equiv.Perm Side} {bound : Nat}

@[simp]
theorem size_relabelFrom (tree : ElementTree) : (tree.relabelFrom bound p).size = tree.size := by
  simp only [size, relabelFrom, Array.size_mapIdx]

/-- The elements before the number are as they were, and the others are relabelled. -/
theorem get?_relabelFrom (tree : ElementTree) (node : NodeId) :
    (tree.relabelFrom bound p).get? node =
      (tree.get? node).map fun element ↦
        if node.index < bound then element else element.relabel p := by
  simp only [get?, relabelFrom, Array.getElem?_mapIdx]

/-- A tree has nothing to relabel after its last element. -/
theorem relabelFrom_size (tree : ElementTree) : tree.relabelFrom tree.size p = tree := by
  apply ext_get?
  intro node
  rw [get?_relabelFrom]
  cases hget : tree.get? node with
  | none => rfl
  | some element => rw [Option.map_some, if_pos (lt_size_of_get? hget)]

/-- Relabelling goes through a change that does not depend on what is relabelled. -/
theorem relabelFrom_modify (tree : ElementTree) (node : NodeId) {f : Element → Element}
    (hf : ∀ element, (f element).relabel p = f (element.relabel p)) :
    (tree.modify node f).relabelFrom bound p = (tree.relabelFrom bound p).modify node f := by
  apply ext_get?
  intro other
  rw [get?_relabelFrom, get?_modify, get?_modify, get?_relabelFrom]
  by_cases hother : other = node
  · rw [if_pos hother, if_pos hother, Option.map_map, Option.map_map]
    congr 1
    funext element
    simp only [Function.comp_apply, hf]
    split <;> rfl
  · rw [if_neg hother, if_neg hother]

/-- An element that comes after the number is adopted relabelled. -/
theorem relabelFrom_adopt {tree : ElementTree} (hbound : bound ≤ tree.size) (parent : NodeId)
    (element : Element) :
    (tree.adopt parent element).relabelFrom bound p =
      (tree.relabelFrom bound p).adopt parent (element.relabel p) := by
  apply ext_get?
  intro other
  rw [get?_relabelFrom, get?_adopt, get?_adopt, get?_relabelFrom, size_relabelFrom]
  by_cases hnew : other = ⟨tree.size⟩
  · subst hnew
    rw [if_pos rfl, if_pos rfl, Option.map_some, if_neg (Nat.not_lt.mpr hbound)]
  · rw [if_neg hnew, if_neg hnew]
    by_cases hparent : other = parent
    · rw [if_pos hparent, if_pos hparent, Option.map_map, Option.map_map]
      congr 1
      funext before
      simp only [Function.comp_apply]
      split <;> rfl
    · rw [if_neg hparent, if_neg hparent]

end ElementTree

/-! ### Runs in lockstep -/

/-- A child is created beside a log and a memory as it is in the tree. -/
theorem ElementTree.create_beside {tree : ElementTree} {parent : NodeId}
    (hparent : parent.index < tree.size) (role : Role) (classes : List String) (log : κ)
    (memory : τ) :
    ((ElementTree.sink.beside τ).beside κ).create parent role classes (log, memory, tree) =
      (.ok ⟨tree.size⟩, log, memory, tree.adopt parent (.new role classes)) := by
  simp only [Sink.beside, Action.onSecond, sink_create hparent]

/-- A node is changed beside a log and a memory as it is in the tree. -/
theorem ElementTree.edit_beside {tree : ElementTree} {node : NodeId}
    (hnode : node.index < tree.size) (change : Edit) (log : κ) (memory : τ) :
    ((ElementTree.sink.beside τ).beside κ).edit node change (log, memory, tree) =
      (.ok (), log, memory, tree.modify node (·.apply change)) := by
  simp only [Sink.beside, Action.onSecond, sink_edit hnode]

/-- A recorded renderer logs its request and then answers it. -/
theorem MarkdownRenderer.recorded_apply {σ : Type} (markdown : MarkdownRenderer σ) (source : String)
    (target : NodeId) (context : MarkdownContext) (log : List MarkdownCall) (state : σ) :
    markdown.recorded source target context (log, state) =
      let (answer, after) := markdown source target context state
      (answer, log ++ [⟨source, target, context⟩], after) := rfl

/-- A drawing in lockstep for relabelled sides comes to the same result, with the same requests for
markdown and the same memory, and to the tree in which what is new is relabelled. -/
theorem Drawing.Lockstep.perform_relabelFrom {p : Equiv.Perm Side}
    {markdown : MarkdownRenderer (τ × ElementTree)} {context : MarkdownContext}
    {reply : String → NodeId → τ → Except RenderError Unit × τ × Option Content}
    (hmarkdown : markdown.SetsContent context reply) {drawing drawing' : Drawing α}
    (h : drawing.Lockstep id (Element.relabel p) Eq drawing') {bound : Nat}
    {post : α → ElementTree → Prop} {tree : ElementTree}
    (hensures : drawing.Ensures (fun _ _ ↦ True) post tree) (hbound : bound ≤ tree.size)
    (log : List MarkdownCall) (memory : τ) :
    let sink := (ElementTree.sink.beside τ).beside (List MarkdownCall)
    let run := drawing.perform sink markdown.recorded context (log, memory, tree)
    drawing'.perform sink markdown.recorded context (log, memory, tree.relabelFrom bound p) =
      (run.1, run.2.1, run.2.2.1, run.2.2.2.relabelFrom bound p) := by
  intro sink run
  induction h generalizing tree log memory with
  | done hresult =>
    subst hresult
    rfl
  | @create parent role role' classes classes' next next' hlook hnext ih =>
    obtain ⟨hparent, hrest⟩ := hensures
    have hparent' : parent.index < (tree.relabelFrom bound p).size := by
      rwa [ElementTree.size_relabelFrom]
    have hgrown : bound ≤ (tree.adopt parent (.new role classes)).size := by
      rw [ElementTree.size_adopt]
      omega
    simp only [run, perform_create, sink, ElementTree.create_beside hparent, id,
      ElementTree.create_beside hparent', hlook, ElementTree.size_relabelFrom]
    rw [← ElementTree.relabelFrom_adopt hbound]
    exact ih _ hrest hgrown log memory
  | @edit node change next next' hnext ih =>
    obtain ⟨hnode, hrest⟩ := hensures
    have hnode' : node.index < (tree.relabelFrom bound p).size := by
      rwa [ElementTree.size_relabelFrom]
    simp only [run, perform_edit, sink, ElementTree.edit_beside hnode, id,
      ElementTree.edit_beside hnode']
    rw [← ElementTree.relabelFrom_modify _ _ fun element ↦ element.relabel_apply p change]
    exact ih hrest (by rwa [ElementTree.size_modify]) log memory
  | @markdown source target next next' hnext ih =>
    obtain ⟨⟨element, hget, hcontent⟩, hrest⟩ := hensures
    have hget' : (tree.relabelFrom bound p).get? target =
        some (if target.index < bound then element else element.relabel p) := by
      rw [ElementTree.get?_relabelFrom, hget, Option.map_some]
    have hcontent' : (if target.index < bound then element else element.relabel p).content =
        none := by
      split <;> exact hcontent
    -- The node is blank in both trees, so the same reply decides what both calls do.
    have hfilled := @hmarkdown source target memory tree _ hget hcontent
    have hfilled' := @hmarkdown source target memory _ _ hget' hcontent'
    rcases hreply : reply source target memory with ⟨answer, after, content⟩
    simp only [hreply] at hfilled hfilled'
    simp only [run, perform_markdown, MarkdownRenderer.recorded_apply, hfilled, id, hfilled']
    rw [← ElementTree.relabelFrom_modify _ _ fun element ↦ element.relabel_fill p content]
    cases answer with
    | error error => rfl
    | ok _ => exact ih (hrest content trivial) (by rwa [ElementTree.size_modify]) _ after

/-- With the sides of a script and of its configuration relabelled, a run ends as before, with the
same requests for markdown and the same memory of the renderer, and in the tree of before with what
was drawn relabelled: the role and the side's class of each wrapper of a message. -/
theorem render_relabel {start : ElementTree} (hstart : start.Reachable)
    {markdown : MarkdownRenderer (τ × ElementTree)} {context : MarkdownContext}
    {reply : String → NodeId → τ → Except RenderError Unit × τ × Option Content}
    (hmarkdown : markdown.SetsContent context reply) (p : Equiv.Perm Side) (script : Script)
    (config : Config) (log : List MarkdownCall) (memory : τ) :
    let sink := (ElementTree.sink.beside τ).beside (List MarkdownCall)
    let run := script.render config sink markdown.recorded context (log, memory, start)
    (script.relabel p).render (config.relabel p) sink markdown.recorded context
        (log, memory, start) =
      (run.1, run.2.1, run.2.2.1, run.2.2.2.relabelFrom start.size p) := by
  have hdraw := script.ensures_draw hstart.grown config fun _ _ ↦ True
  have hrun := (script.lockstep_draw id p config ElementTree.root).perform_relabelFrom hmarkdown
    hdraw (Nat.le_refl start.size) log memory
  rwa [start.relabelFrom_size] at hrun

/-- Left goes to right, right to the center and the center to the left. -/
def turned : Equiv.Perm Side where
  toFun
    | .left => .right
    | .right => .center
    | .center => .left
  invFun
    | .left => .center
    | .right => .left
    | .center => .right
  left_inv side := by cases side <;> rfl
  right_inv side := by cases side <;> rfl

/-- A message of each side, with titles and footers that are set for some. -/
def roundScript : Script where
  lines := [⟨.title .left "Ann" none, ⟨0, 9⟩⟩, ⟨.footerDefault .center "sent", ⟨10, 28⟩⟩,
    ⟨.message .left "a", ⟨29, 31⟩⟩, ⟨.message .center "c", ⟨32, 34⟩⟩,
    ⟨.message .right "b", ⟨35, 37⟩⟩]
  sourceId := 0

/-- Contents go through markdown, and default footers are attached. -/
def roundConfig : Config :=
  { Config.default with
    titles := ⟨"", "Bob", "Cy"⟩
    presentation.footerMode := .all
    presentation.markdown.content := true }

/-- What a renderer of limited patience answers, remembers and shows. -/
def impatientReply (source : String) (_ : NodeId) :
    Nat → Except RenderError Unit × Nat × Option Content
  | 0 => (.error (.markdown "out of patience"), 0, none)
  | patience + 1 => (.ok (), patience, some (.text source))

/-- The renderer gives up at the third message, whichever sides the messages have, and the first one
is marked for the side that it is turned to. -/
theorem render_relabel_roundScript :
    let sink := (ElementTree.sink.beside Nat).beside (List MarkdownCall)
    let run := roundScript.render roundConfig sink impatient.recorded ⟨""⟩ ([], 2, .empty)
    let run' := (roundScript.relabel turned).render (roundConfig.relabel turned) sink
      impatient.recorded ⟨""⟩ ([], 2, .empty)
    impatient.SetsContent ⟨""⟩ impatientReply ∧
      run' = (run.1, run.2.1, run.2.2.1, run.2.2.2.relabelFrom ElementTree.empty.size turned) ∧
      run.1 = .error (.markdown "out of patience") ∧
      run.2.1.map (·.source) = ["a", "c", "b"] ∧
      run.2.2.2.findByRole (.message .left) = [⟨2⟩] ∧
      run'.2.2.2.findByRole (.message .right) = [⟨2⟩] ∧
      (run.2.2.2.get? ⟨2⟩).map (·.classes) =
        some ["dialogue-plugin-block-wrapper", "dialogue-plugin-message-wrapper-left"] ∧
      (run'.2.2.2.get? ⟨2⟩).map (·.classes) =
        some ["dialogue-plugin-block-wrapper", "dialogue-plugin-message-wrapper-right"] := by
  have hmarkdown : impatient.SetsContent ⟨""⟩ impatientReply := by
    rintro source target (_ | patience) tree element hget hcontent
    · exact Prod.ext rfl (Prod.ext rfl (ElementTree.modify_fill_none hget hcontent).symm)
    · have hplain := @MarkdownRenderer.plain_fills ⟨""⟩ source target tree element hget hcontent
      simp only [impatient, hplain, impatientReply]
  have hrun := render_relabel .empty hmarkdown turned roundScript roundConfig [] 2
  refine ⟨hmarkdown, hrun, ?_, ?_, ?_, ?_, ?_, ?_⟩ <;> decide +kernel

end Colloquy
