import Colloquy.Proofs.Arena
import Colloquy.Sink.Drawing
import Colloquy.Sink.Trace

/-!
# Performances of drawings

What can be said of a drawing before any sink is named. `Always` holds of the results that a
drawing can have at all, whatever handles it is given. `Ensures` follows a drawing over an element
tree: every request is sent to a node that is there, and the result and the tree at the end are as
wanted, whatever a markdown renderer leaves in the blank nodes it is asked to fill.

Both are statements about the plan alone. `Always.of_perform` and `Ensures.of_perform` carry them
to performances, the second to every sink that keeps an element tree in its state.
-/

namespace Colloquy

variable {α β σ τ : Type}

/-- An action that goes on does so from the state reached, unless it stopped with an error. -/
theorem Action.bind_apply (first : Action σ α) (next : α → Action σ β) (state : σ) :
    (first >>= next) state =
      match first state with
      | (.ok value, state') => next value state'
      | (.error error, state') => (.error error, state') := by
  change ExceptT.bindCont next (first state).1 (first state).2 = _
  rcases first state with ⟨error | value, state'⟩ <;> rfl

/-- An action that succeeds has a result and a state after it. -/
theorem Action.exists_of_isOk {action : Action σ α} {state : σ} (h : (action state).1.isOk = true) :
    ∃ result state', action state = (.ok result, state') := by
  rcases hrun : action state with ⟨error | result, state'⟩
  · rw [hrun] at h
    cases h
  · exact ⟨result, state', rfl⟩

/-! ### Sinks that keep a tree, and renderers that fill nodes -/

/-- The sink answers as the element tree in its state does. -/
structure Sink.Carries (sink : Sink σ) (tree : σ → ElementTree) : Prop where
  root : ∀ state, sink.root state = ElementTree.root
  create : ∀ parent role classes state,
    let answer := sink.create parent role classes state
    (answer.1, tree answer.2) = ElementTree.sink.create parent role classes (tree state)
  edit : ∀ node change state,
    let answer := sink.edit node change state
    (answer.1, tree answer.2) = ElementTree.sink.edit node change (tree state)

/-- An element tree carries itself. -/
theorem ElementTree.sink_carries : ElementTree.sink.Carries id :=
  ⟨fun _ ↦ rfl, fun _ _ _ _ ↦ rfl, fun _ _ _ ↦ rfl⟩

/-- A value kept beside the state does not change what is carried. -/
theorem Sink.Carries.beside {sink : Sink σ} {tree : σ → ElementTree} (h : sink.Carries tree) :
    (sink.beside τ).Carries fun state ↦ tree state.2 :=
  ⟨fun state ↦ h.root state.2, fun parent role classes state ↦ h.create parent role classes state.2,
    fun node change state ↦ h.edit node change state.2⟩

/-- A child below a node that is there is created and adopted. -/
theorem Sink.Carries.exists_create {sink : Sink σ} {tree : σ → ElementTree} (h : sink.Carries tree)
    {parent : NodeId} {state : σ} (hparent : parent.index < (tree state).size) (role : Role)
    (classes : List String) :
    ∃ after, sink.create parent role classes state = (.ok ⟨(tree state).size⟩, after) ∧
      tree after = (tree state).adopt parent (.new role classes) := by
  have hanswer := h.create parent role classes state
  simp only [ElementTree.sink, ElementTree.create_eq hparent] at hanswer
  obtain ⟨hok, htree⟩ := Prod.mk.inj hanswer
  exact ⟨_, Prod.ext hok rfl, htree⟩

/-- A change to a node that is there is made. -/
theorem Sink.Carries.exists_edit {sink : Sink σ} {tree : σ → ElementTree} (h : sink.Carries tree)
    {node : NodeId} {state : σ} (hnode : node.index < (tree state).size) (change : Edit) :
    ∃ after, sink.edit node change state = (.ok (), after) ∧
      tree after = (tree state).modify node (·.apply change) := by
  have hanswer := h.edit node change state
  simp only [ElementTree.sink, ElementTree.edit_eq hnode] at hanswer
  obtain ⟨hok, htree⟩ := Prod.mk.inj hanswer
  exact ⟨_, Prod.ext hok rfl, htree⟩

namespace MarkdownRenderer

/-- Asked to fill a blank node of the tree, the renderer changes nothing of the tree but the
content of that node when it succeeds, and what it leaves there for a source is as allowed. -/
def Writes (markdown : MarkdownRenderer σ) (tree : σ → ElementTree) (context : MarkdownContext)
    (allowed : String → Option Content → Prop) : Prop :=
  ∀ ⦃source target state element⦄, (tree state).get? target = some element →
    element.content = none → ∀ ⦃state'⦄, markdown source target context state = (.ok (), state') →
      ∃ content, allowed source content ∧
        tree state' = (tree state).modify target (·.fill content)

/-- What is written as allowed is written as more is allowed. -/
theorem Writes.mono {markdown : MarkdownRenderer σ} {tree : σ → ElementTree}
    {context : MarkdownContext} {allowed more : String → Option Content → Prop}
    (h : markdown.Writes tree context allowed)
    (himp : ∀ source content, allowed source content → more source content) :
    markdown.Writes tree context more := by
  intro source target state element hget hcontent state' hrun
  obtain ⟨content, hallowed, htree⟩ := h hget hcontent hrun
  exact ⟨content, himp source content hallowed, htree⟩

/-- The renderer can fail with the error when it is asked to fill a blank node of the tree. -/
def CanRaise (markdown : MarkdownRenderer σ) (tree : σ → ElementTree) (context : MarkdownContext)
    (error : RenderError) : Prop :=
  ∃ source target state element, (tree state).get? target = some element ∧
    element.content = none ∧ (markdown source target context state).1 = .error error

/-- A renderer without failure and without memory: asked to fill a blank node of the tree, it gives
the node a content that depends on the source alone, and changes nothing else. -/
def Fills (markdown : MarkdownRenderer ElementTree) (context : MarkdownContext)
    (written : String → Option Content) : Prop :=
  ∀ ⦃source target tree element⦄, tree.get? target = some element → element.content = none →
    markdown source target context tree = (.ok (), tree.modify target (·.fill (written source)))

/-- Filling is writing that one content. -/
theorem Fills.writes {markdown : MarkdownRenderer ElementTree} {context : MarkdownContext}
    {written : String → Option Content} (h : markdown.Fills context written) :
    markdown.Writes id context fun source content ↦ content = written source := by
  intro source target tree element hget hcontent tree' hrun
  rw [id] at hget
  rw [h hget hcontent] at hrun
  cases hrun
  exact ⟨written source, rfl, rfl⟩

/-- Filling never fails. -/
theorem Fills.not_canRaise {markdown : MarkdownRenderer ElementTree} {context : MarkdownContext}
    {written : String → Option Content} (h : markdown.Fills context written)
    (error : RenderError) : ¬markdown.CanRaise id context error := by
  rintro ⟨source, target, tree, element, hget, hcontent, hrun⟩
  rw [id] at hget
  rw [h hget hcontent] at hrun
  cases hrun

/-- A renderer that answers with one change fills nodes if that change depends on the source alone
and is one of the content. -/
theorem fills_of_edit {markdown : MarkdownRenderer ElementTree} {context : MarkdownContext}
    (edit : String → Edit) {written : String → Option Content}
    (hmarkdown : ∀ source target, markdown source target context =
      ElementTree.sink.edit target (edit source))
    (hedit : ∀ source (element : Element), element.content = none →
      element.apply (edit source) = element.fill (written source)) :
    markdown.Fills context written := by
  intro source target tree element hget hcontent
  have hmodify : tree.modify target (·.apply (edit source)) =
      tree.modify target (·.fill (written source)) :=
    ElementTree.modify_congr hget (hedit source element hcontent)
  rw [hmarkdown]
  simp only [ElementTree.sink, ElementTree.edit_eq (ElementTree.lt_size_of_get? hget), hmodify]

/-- The renderer that shows sources as they are writes them into every tree that a sink carries. -/
theorem plain_writes {sink : Sink σ} {tree : σ → ElementTree} (hsink : sink.Carries tree)
    (context : MarkdownContext) :
    (plain sink).Writes tree context fun source content ↦ content = some (.text source) := by
  intro source target state element hget _ state' hrun
  have htarget := ElementTree.lt_size_of_get? hget
  obtain ⟨after, hedit, htree⟩ := hsink.exists_edit htarget (.text source)
  rw [plain, hedit] at hrun
  cases hrun
  exact ⟨_, rfl, htree⟩

/-- The renderer that shows sources as they are fills nodes with them. -/
theorem plain_fills (context : MarkdownContext) :
    (plain ElementTree.sink).Fills context fun source ↦ some (.text source) :=
  fills_of_edit .text (fun _ _ ↦ rfl) fun _ _ _ ↦ rfl

/-- A renderer that appends HTML fills nodes with it. -/
theorem ofHtml_fills (toHtml : String → String) (context : MarkdownContext) :
    (ofHtml toHtml ElementTree.sink).Fills context fun source ↦ some (.html (toHtml source)) := by
  apply fills_of_edit (fun source ↦ .html (toHtml source)) (fun _ _ ↦ rfl)
  intro source element hcontent
  simp only [Element.apply, Element.fill, hcontent, Option.elim_none, String.empty_append]

end MarkdownRenderer

namespace Drawing

/-! ### Results -/

/-- The results of a drawing satisfy `post`, whatever handles it is given. -/
def Always (post : α → Prop) : Drawing α → Prop
  | .done result => post result
  | .create _ _ _ next => ∀ node, (next node).Always post
  | .edit _ _ next => next.Always post
  | .markdown _ _ next => next.Always post

@[simp]
theorem always_pure {post : α → Prop} {result : α} :
    (pure result : Drawing α).Always post ↔ post result := Iff.rfl

/-- The results of a drawing that goes on are those of what it goes on with. -/
@[simp]
theorem always_bind {post : β → Prop} {drawing : Drawing α} {f : α → Drawing β} :
    (drawing >>= f).Always post ↔ drawing.Always fun result ↦ (f result).Always post := by
  change (drawing.bind f).Always post ↔ _
  induction drawing with
  | done result => rfl
  | create parent role classes next ih => exact forall_congr' ih
  | edit node change next ih => exact ih
  | markdown source target next ih => exact ih

/-- What holds of some results holds of weaker demands. -/
theorem Always.mono {post weaker : α → Prop} {drawing : Drawing α} (h : drawing.Always post)
    (himp : ∀ result, post result → weaker result) : drawing.Always weaker := by
  induction drawing with
  | done result => exact himp result h
  | create parent role classes next ih => exact fun node ↦ ih node (h node)
  | edit node change next ih => exact ih h
  | markdown source target next ih => exact ih h

/-- A demand that every value meets is met. -/
theorem always_of_forall {post : α → Prop} (drawing : Drawing α) (h : ∀ result, post result) :
    drawing.Always post := by
  induction drawing with
  | done result => exact h result
  | create parent role classes next ih => exact ih
  | edit node change next ih => exact ih
  | markdown source target next ih => exact ih

section Performing

variable {sink : Sink σ} {markdown : MarkdownRenderer σ} {context : MarkdownContext}

/-- A request for a new node is answered first, and an error ends the performance. -/
theorem perform_create (parent : NodeId) (role : Role) (classes : List String)
    (next : NodeId → Drawing α) (state : σ) :
    (create parent role classes next).perform sink markdown context state =
      match sink.create parent role classes state with
      | (.ok node, state') => (next node).perform sink markdown context state'
      | (.error error, state') => (.error error, state') := by
  rw [perform, Action.bind_apply]
  rcases sink.create parent role classes state with ⟨_ | _, _⟩ <;> rfl

/-- A change is made first, and an error ends the performance. -/
theorem perform_edit (node : NodeId) (change : Edit) (next : Drawing α) (state : σ) :
    (edit node change next).perform sink markdown context state =
      match sink.edit node change state with
      | (.ok (), state') => next.perform sink markdown context state'
      | (.error error, state') => (.error error, state') := by
  rw [perform, Action.bind_apply]
  rcases sink.edit node change state with ⟨_ | _, _⟩ <;> rfl

/-- Markdown is rendered first, and an error ends the performance. -/
theorem perform_markdown (source : String) (target : NodeId) (next : Drawing α) (state : σ) :
    (Drawing.markdown source target next).perform sink markdown context state =
      match markdown source target context state with
      | (.ok (), state') => next.perform sink markdown context state'
      | (.error error, state') => (.error error, state') := by
  rw [perform, Action.bind_apply]
  rcases markdown source target context state with ⟨_ | _, _⟩ <;> rfl

/-- A performance that succeeds has one of the results of its drawing. -/
theorem Always.of_perform {post : α → Prop} {drawing : Drawing α} (h : drawing.Always post)
    {state state' : σ} {result : α}
    (hrun : drawing.perform sink markdown context state = (.ok result, state')) : post result := by
  induction drawing generalizing state with
  | done value =>
    cases hrun
    exact h
  | create parent role classes next ih =>
    rw [perform_create] at hrun
    split at hrun
    · next node after _ => exact ih node (h node) hrun
    · cases hrun
  | edit node change next ih =>
    rw [perform_edit] at hrun
    split at hrun
    · exact ih h hrun
    · cases hrun
  | markdown source target next ih =>
    rw [perform_markdown] at hrun
    split at hrun
    · exact ih h hrun
    · cases hrun

end Performing

/-! ### Drawings over an element tree -/

/-- Every request is sent to a node that is there, markdown only to a blank one, and the result and
the tree at the end satisfy `post`, whatever allowed content the markdown renderer leaves. -/
def Ensures (allowed : String → Option Content → Prop) (post : α → ElementTree → Prop) :
    Drawing α → ElementTree → Prop
  | .done result, tree => post result tree
  | .create parent role classes next, tree =>
    parent.index < tree.size ∧
      (next ⟨tree.size⟩).Ensures allowed post (tree.adopt parent (.new role classes))
  | .edit node change next, tree =>
    node.index < tree.size ∧ next.Ensures allowed post (tree.modify node (·.apply change))
  | .markdown source target next, tree =>
    (∃ element, tree.get? target = some element ∧ element.content = none) ∧
      ∀ content, allowed source content →
        next.Ensures allowed post (tree.modify target (·.fill content))

section Ensuring

variable {allowed : String → Option Content → Prop}

@[simp]
theorem ensures_pure {post : α → ElementTree → Prop} {result : α} {tree : ElementTree} :
    (pure result : Drawing α).Ensures allowed post tree ↔ post result tree := Iff.rfl

/-- Going on is ensuring what the rest asks for. -/
@[simp]
theorem ensures_bind {post : β → ElementTree → Prop} {drawing : Drawing α} {f : α → Drawing β}
    {tree : ElementTree} :
    (drawing >>= f).Ensures allowed post tree ↔
      drawing.Ensures allowed (fun result after ↦ (f result).Ensures allowed post after) tree := by
  change (drawing.bind f).Ensures allowed post tree ↔ _
  induction drawing generalizing tree with
  | done result => rfl
  | create parent role classes next ih => exact and_congr_right fun _ ↦ ih _
  | edit node change next ih => exact and_congr_right fun _ ↦ ih
  | markdown source target next ih =>
    exact and_congr_right fun _ ↦ forall_congr' fun content ↦ imp_congr_right fun _ ↦ ih

/-- What is ensured ensures weaker demands. -/
theorem Ensures.mono {post weaker : α → ElementTree → Prop} {drawing : Drawing α}
    {tree : ElementTree} (h : drawing.Ensures allowed post tree)
    (himp : ∀ result after, post result after → weaker result after) :
    drawing.Ensures allowed weaker tree := by
  induction drawing generalizing tree with
  | done result => exact himp result tree h
  | create parent role classes next ih => exact ⟨h.1, ih _ h.2⟩
  | edit node change next ih => exact ⟨h.1, ih h.2⟩
  | markdown source target next ih => exact ⟨h.1, fun content hallowed ↦ ih (h.2 content hallowed)⟩

/-- A new child is adopted. -/
theorem ensures_newChild {post : NodeId → ElementTree → Prop} {parent : NodeId} {role : Role}
    {classes : List String} {tree : ElementTree} :
    (newChild parent role classes).Ensures allowed post tree ↔
      parent.index < tree.size ∧
        post ⟨tree.size⟩ (tree.adopt parent (.new role classes)) := Iff.rfl

/-- A change to the newest element is part of its adoption. -/
theorem ensures_change_adopt {post : Unit → ElementTree → Prop} {parent : NodeId}
    {element : Element} {edit : Edit} {tree : ElementTree}
    (h : post () (tree.adopt parent (element.apply edit))) :
    (change ⟨tree.size⟩ edit).Ensures allowed post (tree.adopt parent element) := by
  refine ⟨tree.lt_size_adopt parent element, ?_⟩
  rwa [ElementTree.modify_adopt]

/-- A performance over a tree ends as ensured, unless the markdown renderer raises an error: then
the performance ends with that error. -/
theorem Ensures.of_perform {sink : Sink σ} {markdown : MarkdownRenderer σ}
    {context : MarkdownContext} {treeOf : σ → ElementTree} (hsink : sink.Carries treeOf)
    (hmarkdown : markdown.Writes treeOf context allowed) {post : α → ElementTree → Prop}
    {drawing : Drawing α} {state : σ} (h : drawing.Ensures allowed post (treeOf state)) :
    (∃ result state', drawing.perform sink markdown context state = (.ok result, state') ∧
        post result (treeOf state')) ∨
      ∃ error state', drawing.perform sink markdown context state = (.error error, state') ∧
        markdown.CanRaise treeOf context error := by
  induction drawing generalizing state with
  | done result => exact Or.inl ⟨result, state, rfl, h⟩
  | create parent role classes next ih =>
    obtain ⟨hparent, hnext⟩ := h
    obtain ⟨after, hcreate, htree⟩ := hsink.exists_create hparent role classes
    rw [← htree] at hnext
    rw [perform_create, hcreate]
    exact ih _ hnext
  | edit node change next ih =>
    obtain ⟨hnode, hnext⟩ := h
    obtain ⟨after, hedit, htree⟩ := hsink.exists_edit hnode change
    rw [← htree] at hnext
    rw [perform_edit, hedit]
    exact ih hnext
  | markdown source target next ih =>
    obtain ⟨⟨element, hget, hcontent⟩, hnext⟩ := h
    rw [perform_markdown]
    rcases hrun : markdown source target context state with ⟨error | _, after⟩
    · exact Or.inr ⟨error, after, rfl, source, target, state, element, hget, hcontent, by rw [hrun]⟩
    · obtain ⟨content, hallowed, htree⟩ := hmarkdown hget hcontent hrun
      have hafter := hnext content hallowed
      rw [← htree] at hafter
      exact ih hafter

end Ensuring

end Drawing
end Colloquy
