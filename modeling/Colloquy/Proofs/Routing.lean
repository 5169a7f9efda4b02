import Colloquy.Proofs.Census
import Colloquy.Proofs.Symmetry

/-!
# Routing of markdown

A node whose classes say that it went through markdown is given to the markdown renderer as soon as
it is there, and no other node is ever given to it; a node that shows its text verbatim is given
that text as soon as it is there. So the requests to the renderer are told from the tree: they are
one for each node of the class, in the order of creation.

What the renderer makes of a source is not known, so it does not say which source it was given. To
tell, a tree is overlaid: each node that the renderer was given shows its source instead. Overlaid
trees grow as if the renderer copied its sources, and a renderer that does so is known.
-/

namespace Colloquy

open Drawing

variable {α β ι τ : Type}

/-! ### Routed drawings -/

namespace Drawing

/-- Markdown is rendered into a node right after its creation, if its classes say so and into no
other, and no node but a new one that is not of that class is given a text. -/
inductive Routed : Drawing α → Prop
  | done (result : α) : Routed (.done result)
  /-- A node without a text. -/
  | blank (parent : NodeId) (role : Role) {classes : List String} {next : NodeId → Drawing α}
      (hclasses : Classes.render ∉ classes) (hnext : ∀ node, Routed (next node)) :
    Routed (.create parent role classes next)
  /-- A node with a text as it is. -/
  | verbatim (parent : NodeId) (role : Role) {classes : List String} (text : String)
      {next : NodeId → Drawing α} (hclasses : Classes.render ∉ classes)
      (hnext : ∀ node, Routed (next node)) :
    Routed (.create parent role classes fun node ↦ .edit node (.text text) (next node))
  /-- A node with a text that goes through markdown. -/
  | rendered (parent : NodeId) (role : Role) {classes : List String} (source : String)
      {next : NodeId → Drawing α} (hclasses : Classes.render ∈ classes)
      (hnext : ∀ node, Routed (next node)) :
    Routed (.create parent role classes fun node ↦ .markdown source node (next node))
  /-- An attribute of a node. -/
  | named (node : NodeId) (name value : String) {next : Drawing α} (hnext : Routed next) :
    Routed (.edit node (.attribute name value) next)
  /-- A style property of a node. -/
  | styled (node : NodeId) (property value : String) {next : Drawing α} (hnext : Routed next) :
    Routed (.edit node (.style property value) next)

/-- Routed drawings one after the other are routed. -/
theorem Routed.bind {drawing : Drawing α} {f : α → Drawing β} (h : drawing.Routed)
    (hf : ∀ result, (f result).Routed) : (drawing >>= f).Routed := by
  change (drawing.bind f).Routed
  induction h with
  | done result => exact hf result
  | blank parent role hclasses _ ih => exact .blank parent role hclasses ih
  | verbatim parent role text hclasses _ ih => exact .verbatim parent role text hclasses ih
  | rendered parent role source hclasses _ ih => exact .rendered parent role source hclasses ih
  | named node name value _ ih => exact .named node name value ih
  | styled node property value _ ih => exact .styled node property value ih

end Drawing

/-- The element of a node, with the source instead of what markdown made of it if it is the target
of a request. -/
def Element.overlaid (element : Element) (calls : List MarkdownCall) (node : NodeId) : Element :=
  match calls.find? (·.target = node) with
  | some call => element.fill (some (.html call.source))
  | none => element

/-- Overlaying goes through a change that leaves the content alone. -/
theorem Element.overlaid_comm {f : Element → Element}
    (hf : ∀ element content, (f element).fill content = f (element.fill content))
    (element : Element) (calls : List MarkdownCall) (node : NodeId) :
    (f element).overlaid calls node = f (element.overlaid calls node) := by
  rw [overlaid, overlaid]
  split
  · exact hf element _
  · rfl

/-- An overlaid element has its role. -/
theorem Element.role_overlaid (element : Element) (calls : List MarkdownCall) (node : NodeId) :
    (element.overlaid calls node).role = element.role := by
  unfold overlaid
  split <;> rfl

/-- An overlaid element has its classes. -/
theorem Element.classes_overlaid (element : Element) (calls : List MarkdownCall) (node : NodeId) :
    (element.overlaid calls node).classes = element.classes := by
  unfold overlaid
  split <;> rfl

/-- A change to an element leaves its classes alone. -/
theorem Element.classes_apply (element : Element) (change : Edit) :
    (element.apply change).classes = element.classes := by
  cases change <;> rfl

namespace ElementTree

/-- The tree, with the source of each request instead of what markdown made of it. -/
def overlay (tree : ElementTree) (calls : List MarkdownCall) : ElementTree :=
  ⟨tree.elements.mapIdx fun i element ↦ element.overlaid calls ⟨i⟩⟩

variable {calls : List MarkdownCall}

@[simp]
theorem size_overlay (tree : ElementTree) : (tree.overlay calls).size = tree.size := by
  simp only [size, overlay, Array.size_mapIdx]

/-- Every element is overlaid where it stands. -/
theorem get?_overlay (tree : ElementTree) (node : NodeId) :
    (tree.overlay calls).get? node = (tree.get? node).map (·.overlaid calls node) := by
  simp only [get?, overlay, Array.getElem?_mapIdx]

/-- Overlaying a tree goes through a change that leaves the content alone. -/
theorem overlay_modify (tree : ElementTree) (node : NodeId) {f : Element → Element}
    (hf : ∀ element content, (f element).fill content = f (element.fill content)) :
    (tree.modify node f).overlay calls = (tree.overlay calls).modify node f := by
  apply ext_get?
  intro other
  rw [get?_overlay, get?_modify, get?_modify, get?_overlay]
  split
  · rw [Option.map_map, Option.map_map]
    congr 1
    funext element
    exact element.overlaid_comm hf calls other
  · rfl

/-- A request for the newest element is overlaid where that is adopted, and older requests are
overlaid as before. -/
theorem overlay_append_adopt {tree : ElementTree}
    (hcalls : ∀ call ∈ calls, call.target.index < tree.size) {later : List MarkdownCall}
    (hlater : ∀ call ∈ later, call.target = ⟨tree.size⟩) (parent : NodeId) (element : Element) :
    (tree.adopt parent element).overlay (calls ++ later) =
      (tree.overlay calls).adopt parent (element.overlaid later ⟨tree.size⟩) := by
  have hnew : calls.find? (·.target = ⟨tree.size⟩) = none := by
    rw [List.find?_eq_none]
    intro call hcall
    rw [decide_eq_true_eq]
    intro htarget
    have := hcalls call hcall
    rw [htarget] at this
    exact Nat.lt_irrefl _ this
  have hold : ∀ node : NodeId, node ≠ ⟨tree.size⟩ → later.find? (·.target = node) = none := by
    intro node hnode
    rw [List.find?_eq_none]
    intro call hcall
    rw [decide_eq_true_eq, hlater call hcall]
    exact hnode.symm
  apply ext_get?
  intro other
  rw [get?_overlay, get?_adopt, get?_adopt, get?_overlay, size_overlay]
  by_cases hother : other = ⟨tree.size⟩
  · rw [if_pos hother, if_pos hother, hother, Option.map_some, Element.overlaid,
      List.find?_append, hnew, Option.none_or]
    rfl
  · have hsame : ∀ element : Element, element.overlaid (calls ++ later) other =
        element.overlaid calls other := by
      intro element
      rw [Element.overlaid, List.find?_append, hold other hother, Option.or_none]
      rfl
    rw [if_neg hother, if_neg hother]
    split
    · rw [Option.map_map, Option.map_map]
      congr 1
      funext before
      rw [Function.comp_apply, Function.comp_apply, hsame]
      exact Element.overlaid_comm
        (f := fun old ↦ { old with children := old.children ++ [⟨tree.size⟩] }) (fun _ _ ↦ rfl)
        before calls other
    · simp only [hsame]

/-- An adopted element without requests is overlaid where it is adopted. -/
theorem overlay_adopt {tree : ElementTree} (hcalls : ∀ call ∈ calls, call.target.index < tree.size)
    (parent : NodeId) (element : Element) :
    (tree.adopt parent element).overlay calls = (tree.overlay calls).adopt parent element := by
  have hoverlay := overlay_append_adopt hcalls (fun call (hcall : call ∈ []) ↦ nomatch hcall) parent
    element
  rwa [List.append_nil] at hoverlay

/-- An adopted element with a request shows the source of the request in the overlaid tree. -/
theorem overlay_adopt_rendered {tree : ElementTree}
    (hcalls : ∀ call ∈ calls, call.target.index < tree.size) (source : String)
    (context : MarkdownContext) (parent : NodeId) (element : Element) :
    (tree.adopt parent element).overlay (calls ++ [⟨source, ⟨tree.size⟩, context⟩]) =
      (tree.overlay calls).adopt parent (element.fill (some (.html source))) := by
  rw [overlay_append_adopt hcalls (List.forall_mem_singleton.mpr rfl), Element.overlaid,
    List.find?_singleton, if_pos (decide_eq_true rfl)]

/-! ### Nodes that went through markdown -/

/-- Whether the classes of a node say that it went through markdown. -/
def isRendered (tree : ElementTree) (node : NodeId) : Bool :=
  (tree.get? node).any fun element ↦ decide (Classes.render ∈ element.classes)

/-- The nodes from a number on that went through markdown, in the order of creation. -/
def renderedFrom (tree : ElementTree) (bound : Nat) : List NodeId :=
  ((List.range' bound (tree.size - bound)).map NodeId.mk).filter tree.isRendered

/-- The nodes that are listed are the new ones of the tree that went through markdown. -/
theorem mem_renderedFrom {tree : ElementTree} {bound : Nat} {node : NodeId} :
    node ∈ tree.renderedFrom bound ↔
      (bound ≤ node.index ∧ node.index < tree.size) ∧ tree.isRendered node = true := by
  obtain ⟨index⟩ := node
  have hinjective : Function.Injective NodeId.mk := fun _ _ ↦ congrArg NodeId.index
  rw [renderedFrom, List.mem_filter, List.mem_map_of_injective hinjective, List.mem_range'_1]
  apply and_congr_left
  intro _
  change bound ≤ index ∧ index < bound + (tree.size - bound) ↔ bound ≤ index ∧ index < tree.size
  omega

/-- A change that leaves the classes of elements alone leaves the list alone. -/
theorem renderedFrom_modify (tree : ElementTree) (bound : Nat) (node : NodeId)
    {f : Element → Element} (hf : ∀ element, (f element).classes = element.classes) :
    (tree.modify node f).renderedFrom bound = tree.renderedFrom bound := by
  have hsame : (tree.modify node f).isRendered = tree.isRendered := by
    funext other
    rw [isRendered, get?_modify, isRendered]
    split
    · cases tree.get? other with
      | none => rfl
      | some element => simp only [Option.map_some, Option.any_some, hf]
    · rfl
  rw [renderedFrom, hsame, size_modify, renderedFrom]

/-- An adopted element is listed last if its classes say so. -/
theorem renderedFrom_adopt {tree : ElementTree} {bound : Nat} (hbound : bound ≤ tree.size)
    (parent : NodeId) (element : Element) :
    (tree.adopt parent element).renderedFrom bound =
      tree.renderedFrom bound ++ if Classes.render ∈ element.classes then [⟨tree.size⟩] else [] := by
  have hold : ∀ node : NodeId, node.index < tree.size →
      (tree.adopt parent element).isRendered node = tree.isRendered node := by
    intro node hnode
    rw [isRendered, get?_adopt, if_neg (ne_next_of_lt_size hnode), isRendered]
    split
    · cases tree.get? node <;> rfl
    · rfl
  have hnew : (tree.adopt parent element).isRendered ⟨tree.size⟩ =
      decide (Classes.render ∈ element.classes) := by
    rw [isRendered, get?_adopt, if_pos rfl]
    rfl
  have hrange : List.range' bound ((tree.adopt parent element).size - bound) =
      List.range' bound (tree.size - bound) ++ [tree.size] := by
    have hcount : tree.size + 1 - bound = tree.size - bound + 1 := by omega
    have hlast : bound + (tree.size - bound) = tree.size := by omega
    rw [size_adopt, hcount, List.range'_1_concat, hlast]
  rw [renderedFrom, hrange, List.map_append, List.filter_append, renderedFrom]
  congr 1
  · apply List.filter_congr
    intro node hnode
    obtain ⟨index, hindex, rfl⟩ := List.mem_map.mp hnode
    rw [List.mem_range'_1] at hindex
    exact hold ⟨index⟩ (show index < tree.size by omega)
  · rw [List.map_singleton, List.filter_singleton, hnew]
    split <;> simp_all

end ElementTree

/-! ### Runs -/

/-- All elements of the tree are in its forest. The requests are one for each new node that went
through markdown, in the order of creation, and all have the context. -/
structure Tallies (context : MarkdownContext) (bound : Nat) (calls : List MarkdownCall)
    (tree : ElementTree) : Prop where
  grown : tree.Grown
  counted : tree.Counted
  bound_le : bound ≤ tree.size
  targets : calls.map (·.target) = tree.renderedFrom bound
  contexts : ∀ call ∈ calls, call.context = context

namespace Tallies

variable {context : MarkdownContext} {bound : Nat} {calls : List MarkdownCall} {tree : ElementTree}

/-- Without new elements there are no requests. -/
theorem start (hgrown : tree.Grown) (hcounted : tree.Counted) (context : MarkdownContext) :
    Tallies context tree.size [] tree where
  grown := hgrown
  counted := hcounted
  bound_le := Nat.le_refl _
  targets := by
    rw [ElementTree.renderedFrom, Nat.sub_self]
    rfl
  contexts := List.forall_mem_nil _

/-- All requests are for elements of the tree. -/
theorem lt_size (h : Tallies context bound calls tree) :
    ∀ call ∈ calls, call.target.index < tree.size := by
  intro call hcall
  have htarget : call.target ∈ tree.renderedFrom bound := by
    rw [← h.targets]
    exact List.mem_map_of_mem hcall
  exact (ElementTree.mem_renderedFrom.mp htarget).1.2

/-- Adopting an element asks for no request or for one, as its classes say. -/
theorem adopt_append (h : Tallies context bound calls tree) {parent : NodeId}
    (hparent : parent.index < tree.size) {element : Element} (hchildren : element.children = [])
    {later : List MarkdownCall}
    (htargets : later.map (·.target) =
      if Classes.render ∈ element.classes then [⟨tree.size⟩] else [])
    (hcontexts : ∀ call ∈ later, call.context = context) :
    Tallies context bound (calls ++ later) (tree.adopt parent element) where
  grown := h.grown.adopt hparent hchildren
  counted := h.counted.adopt h.grown hparent hchildren
  bound_le := Nat.le_trans h.bound_le (Nat.le_of_lt (tree.lt_size_adopt parent element))
  targets := by rw [ElementTree.renderedFrom_adopt h.bound_le, List.map_append, h.targets, htargets]
  contexts := List.forall_mem_append.mpr ⟨h.contexts, hcontexts⟩

/-- A new element that is not of the class gets no request. -/
theorem adopt (h : Tallies context bound calls tree) {parent : NodeId}
    (hparent : parent.index < tree.size) {element : Element} (hchildren : element.children = [])
    (helement : Classes.render ∉ element.classes) :
    Tallies context bound calls (tree.adopt parent element) := by
  have hnone : ([] : List MarkdownCall).map (·.target) =
      if Classes.render ∈ element.classes then [⟨tree.size⟩] else [] := by
    rw [if_neg helement]
    rfl
  have htally := h.adopt_append hparent hchildren hnone fun call hcall ↦ nomatch hcall
  rwa [List.append_nil] at htally

/-- A new element of the class gets a request. -/
theorem adopt_rendered (h : Tallies context bound calls tree) {parent : NodeId}
    (hparent : parent.index < tree.size) {element : Element} (hchildren : element.children = [])
    (helement : Classes.render ∈ element.classes) (source : String) :
    Tallies context bound (calls ++ [⟨source, ⟨tree.size⟩, context⟩])
      (tree.adopt parent element) :=
  h.adopt_append hparent hchildren (by rw [if_pos helement]; rfl) (List.forall_mem_singleton.mpr rfl)

/-- A change that leaves the classes and the children of elements alone asks for no request. -/
theorem modify (h : Tallies context bound calls tree) (node : NodeId) {f : Element → Element}
    (hf : ∀ element, (f element).classes = element.classes)
    (hchildren : ∀ element, (f element).children = element.children) :
    Tallies context bound calls (tree.modify node f) where
  grown := h.grown.modify node hchildren
  counted := h.counted.modify node hchildren
  bound_le := by
    rw [ElementTree.size_modify]
    exact h.bound_le
  targets := by rw [ElementTree.renderedFrom_modify _ _ _ hf, h.targets]
  contexts := h.contexts

/-- A new element of the class was requested: the overlaid one shows the source of its request. -/
theorem exists_call (h : Tallies context bound calls tree) {node : NodeId} {element : Element}
    (hget : tree.get? node = some element) (hbound : bound ≤ node.index)
    (helement : Classes.render ∈ element.classes) :
    ∃ source, (⟨source, node, context⟩ : MarkdownCall) ∈ calls ∧
      element.overlaid calls node = element.fill (some (.html source)) := by
  have htarget : node ∈ calls.map (·.target) := by
    rw [h.targets, ElementTree.mem_renderedFrom, ElementTree.isRendered, hget]
    exact ⟨⟨hbound, ElementTree.lt_size_of_get? hget⟩, decide_eq_true helement⟩
  obtain ⟨call, hcall, rfl⟩ := List.mem_map.mp htarget
  cases hfind : calls.find? (·.target = call.target) with
  | none => exact absurd (decide_eq_true rfl) (List.find?_eq_none.mp hfind call hcall)
  | some found =>
    have hfound := List.mem_of_find?_eq_some hfind
    have htarget' : found.target = call.target := by simpa using List.find?_some hfind
    refine ⟨found.source, ?_, ?_⟩
    · rw [← htarget', ← h.contexts found hfound]
      exact hfound
    · rw [Element.overlaid, hfind]

/-- An element that is not of the class was not requested: the overlaid one is the same. -/
theorem overlaid_eq_self (h : Tallies context bound calls tree) {node : NodeId} {element : Element}
    (hget : tree.get? node = some element) (helement : Classes.render ∉ element.classes) :
    element.overlaid calls node = element := by
  have hfind : calls.find? (·.target = node) = none := by
    rw [List.find?_eq_none]
    intro call hcall htarget
    have hlisted := List.mem_map_of_mem (f := (·.target)) hcall
    rw [of_decide_eq_true htarget, h.targets, ElementTree.mem_renderedFrom,
      ElementTree.isRendered, hget] at hlisted
    exact helement (of_decide_eq_true hlisted.2)
  rw [Element.overlaid, hfind]

end Tallies

/-- A routed drawing that succeeds has made one request for each node of the class. What it ensures
with a renderer that copies its sources holds of the overlaid tree. -/
theorem Drawing.Routed.of_perform {drawing : Drawing α} (h : drawing.Routed)
    {markdown : MarkdownRenderer (τ × ElementTree)} {context : MarkdownContext}
    (hmarkdown : markdown.Writes Prod.snd context fun _ _ ↦ True)
    {post : α → ElementTree → Prop} {bound : Nat} {calls calls' : List MarkdownCall}
    {memory memory' : τ} {tree tree' : ElementTree} (htally : Tallies context bound calls tree)
    (hensures : drawing.Ensures (fun source content ↦ content = some (.html source)) post
      (tree.overlay calls)) {result : α}
    (hrun : drawing.perform ((ElementTree.sink.beside τ).beside (List MarkdownCall))
      markdown.recorded context (calls, memory, tree) = (.ok result, (calls', memory', tree'))) :
    Tallies context bound calls' tree' ∧ post result (tree'.overlay calls') := by
  induction h generalizing calls memory tree with
  | done value =>
    cases hrun
    exact ⟨htally, hensures⟩
  | @blank parent role classes next hclasses hnext ih =>
    obtain ⟨hparent, hrest⟩ := hensures
    rw [ElementTree.size_overlay] at hparent hrest
    rw [perform_create, ElementTree.create_beside hparent] at hrun
    rw [← ElementTree.overlay_adopt htally.lt_size] at hrest
    exact ih _ (htally.adopt hparent rfl hclasses) hrest hrun
  | @verbatim parent role classes text next hclasses hnext ih =>
    obtain ⟨hparent, -, hrest⟩ := hensures
    rw [ElementTree.size_overlay] at hparent
    rw [ElementTree.modify_adopt, ElementTree.size_overlay,
      ← ElementTree.overlay_adopt htally.lt_size] at hrest
    rw [perform_create, ElementTree.create_beside hparent] at hrun
    have hlast : NodeId.index ⟨tree.size⟩ < (tree.adopt parent (.new role classes)).size :=
      tree.lt_size_adopt _ _
    simp only [perform_edit, ElementTree.edit_beside hlast, ElementTree.modify_adopt] at hrun
    exact ih _ (htally.adopt hparent rfl hclasses) hrest hrun
  | @rendered parent role classes source next hclasses hnext ih =>
    obtain ⟨hparent, -, hcontent⟩ := hensures
    have hrest := hcontent _ rfl
    rw [ElementTree.size_overlay] at hparent
    rw [ElementTree.modify_adopt, ElementTree.size_overlay] at hrest
    rw [perform_create, ElementTree.create_beside hparent] at hrun
    simp only [perform_markdown, MarkdownRenderer.recorded_apply] at hrun
    have hnew : (tree.adopt parent (.new role classes)).get? ⟨tree.size⟩ =
        some (.new role classes) := by
      rw [ElementTree.get?_adopt, if_pos rfl]
    rcases hreply : markdown source ⟨tree.size⟩ context
      (memory, tree.adopt parent (.new role classes)) with ⟨error | _, after, filled⟩
    · rw [hreply] at hrun
      cases hrun
    · obtain ⟨content, -, hfilled⟩ := hmarkdown hnew rfl hreply
      obtain rfl : filled = tree.adopt parent ((Element.new role classes).fill content) :=
        hfilled.trans (tree.modify_adopt parent _ _)
      rw [hreply] at hrun
      change Ensures _ post _ ((tree.overlay calls).adopt parent
        (((Element.new role classes).fill content).fill (some (.html source)))) at hrest
      rw [← ElementTree.overlay_adopt_rendered htally.lt_size source context] at hrest
      exact ih _ (htally.adopt_rendered hparent rfl hclasses source) hrest hrun
  | @named node name value next hnext ih =>
    obtain ⟨hnode, hrest⟩ := hensures
    rw [ElementTree.size_overlay] at hnode
    rw [perform_edit, ElementTree.edit_beside hnode] at hrun
    rw [← ElementTree.overlay_modify _ _ fun _ _ ↦ rfl] at hrest
    exact ih (htally.modify node (·.classes_apply _) (·.children_apply _)) hrest hrun
  | @styled node property value next hnext ih =>
    obtain ⟨hnode, hrest⟩ := hensures
    rw [ElementTree.size_overlay] at hnode
    rw [perform_edit, ElementTree.edit_beside hnode] at hrun
    rw [← ElementTree.overlay_modify _ _ fun _ _ ↦ rfl] at hrest
    exact ih (htally.modify node (·.classes_apply _) (·.children_apply _)) hrest hrun

end Colloquy
