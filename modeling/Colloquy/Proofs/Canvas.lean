import Colloquy.Proofs.Performance
import Colloquy.Proofs.Sketch
import Colloquy.Render.Instruction
import Mathlib.Data.List.Nodup

/-!
# Drawing below a wrapper

While a block is drawn, its canvas is the forest below the wrapper. Each request for a node grafts
one element into that forest and leaves the rest of the tree as it was, and every change is one to
the newest element. So each instruction adds one forest to the end of the canvas, and that forest
looks as it is sketched.
-/

namespace Colloquy

/-- The element that everything of a block is below. -/
def wrapperElement : Element := .new .wrapper [Classes.dialogueWrapper]

/-- The tree is the one at the start with a wrapper at the end of its root's children. What is below
the wrapper is newer, and no handle is there twice. -/
structure Canvas (start tree : ElementTree) (below : Forest (NodeId × Element)) : Prop where
  start_grown : start.Grown
  grown : tree.Grown
  size_lt : start.size < tree.size
  shape_eq : tree.shape = start.shape.graft ElementTree.root
    (.cons (⟨start.size⟩, wrapperElement) below .nil)
  nodup : below.handles.Nodup
  bounds : ∀ node ∈ below.handles, start.size < node.index ∧ node.index < tree.size

namespace ElementTree

/-- The shape of a tree has the handles of its elements only. -/
theorem Grown.lt_size_of_mem_shape {tree : ElementTree} (htree : tree.Grown) {node : NodeId}
    (h : node ∈ tree.shape.handles) : node.index < tree.size := by
  obtain ⟨element, below, hshape, hbelow, -⟩ := htree.shape_eq
  simp only [hshape, Forest.handles_cons, Forest.handles_nil, List.append_nil,
    List.mem_cons] at h
  rcases h with rfl | h
  · exact htree.size_pos
  · exact (hbelow node h).2

end ElementTree

namespace Canvas

variable {start tree : ElementTree} {below : Forest (NodeId × Element)}

/-- A new wrapper has an empty canvas. -/
theorem opened (hstart : start.Grown) :
    Canvas start (start.adopt ElementTree.root wrapperElement) .nil where
  start_grown := hstart
  grown := hstart.adopt hstart.size_pos rfl
  size_lt := start.lt_size_adopt _ _
  shape_eq := hstart.shape_adopt _ rfl
  nodup := List.nodup_nil
  bounds := by
    intro node hnode
    cases hnode

/-- A node below the wrapper is there. -/
theorem lt_size (h : Canvas start tree below) {node : NodeId} (hnode : node ∈ below.handles) :
    node.index < tree.size :=
  (h.bounds node hnode).2

/-- The handle of the next element is not there yet. -/
theorem next_not_mem (h : Canvas start tree below) : ⟨tree.size⟩ ∉ below.handles := by
  intro hmem
  exact Nat.lt_irrefl _ (h.lt_size hmem)

/-- An element below the wrapper itself goes to the end of the canvas. -/
theorem adopt_wrapper (h : Canvas start tree below) {element : Element}
    (helement : element.children = []) :
    Canvas start (tree.adopt ⟨start.size⟩ element)
      (below ++ .cons (⟨tree.size⟩, element) .nil .nil) where
  start_grown := h.start_grown
  grown := h.grown.adopt h.size_lt helement
  size_lt := Nat.lt_trans h.size_lt (tree.lt_size_adopt _ _)
  shape_eq := by
    have hold : ⟨start.size⟩ ∉ start.shape.handles := fun hmem ↦
      Nat.lt_irrefl _ (h.start_grown.lt_size_of_mem_shape hmem)
    have hbelow : ⟨start.size⟩ ∉ below.handles := fun hmem ↦
      Nat.lt_irrefl _ (h.bounds _ hmem).1
    rw [h.grown.shape_adopt _ helement, h.shape_eq, Forest.graft_graft_fresh hold,
      Forest.graft_cons_self hbelow List.not_mem_nil]
  nodup := by
    rw [Forest.handles_append, List.nodup_append]
    refine ⟨h.nodup, List.nodup_singleton _, ?_⟩
    rintro node hnode _ hnew rfl
    cases List.mem_singleton.mp hnew
    exact h.next_not_mem hnode
  bounds := by
    intro node hnode
    rw [ElementTree.size_adopt]
    simp only [Forest.handles_append, Forest.handles_cons, Forest.handles_nil, List.append_nil,
      List.mem_append, List.mem_singleton] at hnode
    rcases hnode with hold | rfl
    · have := h.bounds node hold
      omega
    · exact ⟨h.size_lt, Nat.lt_succ_self _⟩

/-- An element below a node of the canvas is grafted there. -/
theorem adopt_inside (h : Canvas start tree below) {parent : NodeId}
    (hparent : parent ∈ below.handles) {element : Element} (helement : element.children = []) :
    Canvas start (tree.adopt parent element)
      (below.graft parent (.cons (⟨tree.size⟩, element) .nil .nil)) where
  start_grown := h.start_grown
  grown := h.grown.adopt (h.lt_size hparent) helement
  size_lt := Nat.lt_trans h.size_lt (tree.lt_size_adopt _ _)
  shape_eq := by
    have hbounds := h.bounds parent hparent
    have hold : parent ∉ start.shape.handles := fun hmem ↦
      Nat.lt_asymm hbounds.1 (h.start_grown.lt_size_of_mem_shape hmem)
    have hne : (⟨start.size⟩ : NodeId) ≠ parent := by
      rintro rfl
      exact Nat.lt_irrefl _ hbounds.1
    rw [h.grown.shape_adopt _ helement, h.shape_eq, Forest.graft_graft_fresh hold,
      Forest.graft_cons_of_ne hne, Forest.graft]
  nodup := by
    apply Forest.nodup_handles_graft h.nodup
    · exact List.nodup_singleton _
    · intro node hnode
      cases List.mem_singleton.mp hnode
      exact h.next_not_mem
  bounds := by
    intro node hnode
    rw [ElementTree.size_adopt]
    rcases Forest.mem_handles_graft hnode with hold | hnew
    · have := h.bounds node hold
      omega
    · cases List.mem_singleton.mp hnew
      exact ⟨h.size_lt, Nat.lt_succ_self _⟩

/-- An element below a node of a part of the canvas is grafted into that part. -/
theorem adopt_part {part later : Forest (NodeId × Element)}
    (h : Canvas start tree (below ++ (part ++ later))) {parent : NodeId}
    (hparent : parent ∈ part.handles) {element : Element} (helement : element.children = []) :
    Canvas start (tree.adopt parent element)
      (below ++ (part.graft parent (.cons (⟨tree.size⟩, element) .nil .nil) ++ later)) := by
  have hnodup := h.nodup
  simp only [Forest.handles_append, List.nodup_append, List.mem_append] at hnodup
  obtain ⟨-, ⟨-, -, hpart⟩, hbelow⟩ := hnodup
  have hnot : parent ∉ below.handles := fun hmem ↦ hbelow parent hmem parent (.inl hparent) rfl
  have hnot' : parent ∉ later.handles := fun hmem ↦ hpart parent hparent parent hmem rfl
  have hmem : parent ∈ (below ++ (part ++ later)).handles := by
    simp only [Forest.handles_append, List.mem_append]
    exact .inr (.inl hparent)
  have hadopt := h.adopt_inside hmem helement
  rwa [Forest.graft_append, Forest.graft_append, Forest.graft_of_not_mem hnot,
    Forest.graft_of_not_mem hnot'] at hadopt

/-- An element below a node of the last part of the canvas is grafted into that part. -/
theorem adopt_last {last : Forest (NodeId × Element)} (h : Canvas start tree (below ++ last))
    {parent : NodeId} (hparent : parent ∈ last.handles) {element : Element}
    (helement : element.children = []) :
    Canvas start (tree.adopt parent element)
      (below ++ last.graft parent (.cons (⟨tree.size⟩, element) .nil .nil)) := by
  rw [← Forest.append_nil last] at h
  have hadopt := h.adopt_part hparent helement
  rwa [Forest.append_nil] at hadopt

/-- A new element and the next one below it go to the end of the canvas together. -/
theorem adopt_nested (h : Canvas start tree below) {outer inner : Element}
    (houter : outer.children = []) (hinner : inner.children = []) :
    Canvas start ((tree.adopt ⟨start.size⟩ outer).adopt ⟨tree.size⟩ inner)
      (below ++ .cons (⟨tree.size⟩, outer) (.cons (⟨tree.size + 1⟩, inner) .nil .nil) .nil) := by
  have hcanvas := (h.adopt_wrapper houter).adopt_last (List.mem_singleton_self _) hinner
  rwa [Forest.graft_cons_self List.not_mem_nil List.not_mem_nil, ElementTree.size_adopt]
    at hcanvas

/-- The shape is that of the start, with the wrapper and the canvas after what was below the root. -/
theorem exists_shape_eq (h : Canvas start tree below) :
    ∃ element before, (∀ node ∈ before.handles, node.index < start.size) ∧
      before.map Prod.snd = start.forest.map Element.bare ∧
      tree.shape = .cons (ElementTree.root, element)
        (before ++ .cons (⟨start.size⟩, wrapperElement) below .nil) .nil := by
  obtain ⟨element, before, hbefore, hbounds, hstart⟩ := h.start_grown.shape_eq
  have hroot : ElementTree.root ∉ before.handles := fun hmem ↦
    Nat.lt_irrefl _ (hbounds _ hmem).1
  refine ⟨element, before, fun node hnode ↦ (hbounds node hnode).2, hstart, ?_⟩
  rw [h.shape_eq, hbefore, Forest.graft_cons_self hroot List.not_mem_nil]

/-- In the end the tree shows what it showed before and then the wrapper with the canvas. -/
theorem forest_eq (h : Canvas start tree below) :
    tree.forest.map Element.bare =
      start.forest.map Element.bare ++ .cons wrapperElement (below.map Prod.snd) .nil := by
  obtain ⟨element, before, -, hstart, hshape⟩ := h.exists_shape_eq
  obtain ⟨element', after, hafter, -, htree⟩ := h.grown.shape_eq
  rw [hafter] at hshape
  injection hshape with _ hbelow _
  rw [← htree, ← hstart, hbelow, Forest.map_append]
  rfl

end Canvas
end Colloquy
