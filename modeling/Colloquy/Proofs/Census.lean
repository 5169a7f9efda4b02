import Colloquy.Proofs.Arena
import Mathlib.Data.List.Nodup
import Mathlib.Data.List.Range

/-!
# Counting the elements of a tree

Every element of a tree that requests have made is in the forest that is read off it, and is there
once. So the tree shows as many elements as it has. The forest keeps its shape when elements are
replaced by others with the same children.
-/

namespace Colloquy.ElementTree

/-! ### Replaced elements -/

/-- Elements that are replaced by others with the same children are replaced where they stand. -/
theorem forestBelow_of_get? {tree other : ElementTree} {f : NodeId → Element → Element}
    (hf : ∀ node element, (f node element).children = element.children)
    (h : ∀ node, other.get? node = (tree.get? node).map (f node)) (depth : Nat)
    (nodes : List NodeId) :
    other.forestBelow depth nodes =
      (tree.forestBelow depth nodes).map fun entry ↦ (entry.1, f entry.1 entry.2) := by
  induction depth generalizing nodes with
  | zero => rfl
  | succ depth ihd =>
    induction nodes with
    | nil => rfl
    | cons node rest ihn =>
      have hnode := h node
      cases hget : tree.get? node with
      | none =>
        rw [hget, Option.map_none] at hnode
        simp only [forestBelow, List.foldr_cons, hget, hnode]
        exact ihn
      | some element =>
        rw [hget, Option.map_some] at hnode
        rw [forestBelow_cons hget, forestBelow_cons hnode, hf, ihd, ihn]
        rfl

/-- Elements of the whole tree that are replaced by others with the same children are replaced where
they stand. -/
theorem whole_of_get? {tree other : ElementTree} {f : NodeId → Element → Element}
    (hsize : other.size = tree.size)
    (hf : ∀ node element, (f node element).children = element.children)
    (h : ∀ node, other.get? node = (tree.get? node).map (f node)) :
    other.whole = tree.whole.map fun entry ↦ (entry.1, f entry.1 entry.2) := by
  rw [whole, whole, hsize, forestBelow_of_get? hf h]

/-- The shape of a tree has the handles of its whole forest. -/
theorem handles_shape (tree : ElementTree) : tree.shape.handles = tree.whole.handles := by
  rw [shape, Forest.handles, Forest.preorder_map, List.map_map]
  rfl

/-- A change that leaves the children of an element alone is one in its place. -/
theorem whole_modify (tree : ElementTree) (node : NodeId) {f : Element → Element}
    (hf : ∀ element, (f element).children = element.children) :
    (tree.modify node f).whole = tree.whole.map fun entry ↦
      (entry.1, if entry.1 = node then f entry.2 else entry.2) := by
  apply whole_of_get? (f := fun other element ↦ if other = node then f element else element)
    (size_modify tree node f)
  · intro other element
    split
    · exact hf element
    · rfl
  · intro other
    rw [get?_modify]
    split
    · rfl
    · rw [Option.map_id']

/-- A change that leaves the children of an element alone leaves all handles in their places. -/
theorem handles_whole_modify (tree : ElementTree) (node : NodeId) {f : Element → Element}
    (hf : ∀ element, (f element).children = element.children) :
    (tree.modify node f).whole.handles = tree.whole.handles := by
  rw [whole_modify tree node hf, Forest.handles, Forest.preorder_map, List.map_map]
  rfl

/-- What is below some handles are elements, each under its own handle. -/
theorem get?_of_mem_forestBelow {tree : ElementTree} {depth : Nat} {nodes : List NodeId}
    {entry : NodeId × Element} (h : entry ∈ (tree.forestBelow depth nodes).preorder) :
    tree.get? entry.1 = some entry.2 := by
  induction depth generalizing nodes with
  | zero => cases h
  | succ depth ihd =>
    induction nodes with
    | nil => cases h
    | cons node rest ihn =>
      cases hget : tree.get? node with
      | none =>
        simp only [forestBelow, List.foldr_cons, hget] at h
        exact ihn h
      | some element =>
        simp only [forestBelow_cons hget, Forest.preorder, List.mem_cons, List.mem_append] at h
        obtain rfl | hbelow | hlater := h
        · exact hget
        · exact ihd hbelow
        · exact ihn hlater

/-- The forest under the root, each element with its handle. -/
def below (tree : ElementTree) : Forest (NodeId × Element) :=
  match tree.whole with
  | .nil => .nil
  | .cons _ children _ => children

/-- The forest under the root is that of the elements with their handles. -/
theorem forest_eq_map_below (tree : ElementTree) : tree.forest = tree.below.map Prod.snd := by
  rw [forest, below]
  cases tree.whole <;> rfl

/-- The entries under the root are elements with their handles. -/
theorem get?_of_mem_below {tree : ElementTree} {entry : NodeId × Element}
    (h : entry ∈ tree.below.preorder) : tree.get? entry.1 = some entry.2 := by
  cases hwhole : tree.whole with
  | nil =>
    rw [below, hwhole] at h
    cases h
  | cons label children siblings =>
    rw [below, hwhole] at h
    have hmem : entry ∈ tree.whole.preorder := by
      rw [hwhole, Forest.preorder, List.mem_cons, List.mem_append]
      exact .inr (.inl h)
    exact get?_of_mem_forestBelow hmem

/-- What is under the root are elements of the tree. -/
theorem exists_get?_of_mem_forest {tree : ElementTree} {element : Element}
    (h : element ∈ tree.forest.preorder) : ∃ node, tree.get? node = some element := by
  rw [forest_eq_map_below, Forest.preorder_map, List.mem_map] at h
  obtain ⟨entry, hentry, rfl⟩ := h
  exact ⟨entry.1, get?_of_mem_below hentry⟩

/-! ### All elements, once -/

/-- The handles of the whole forest are those of the elements, each once. -/
structure Counted (tree : ElementTree) : Prop where
  mem_iff : ∀ node, node ∈ tree.whole.handles ↔ node.index < tree.size
  nodup : tree.whole.handles.Nodup

/-- Adopting an element counts one more. -/
theorem Counted.adopt {tree : ElementTree} (h : tree.Counted) (htree : tree.Grown) {parent : NodeId}
    (hparent : parent.index < tree.size) {element : Element} (helement : element.children = []) :
    (tree.adopt parent element).Counted := by
  have hshape := htree.shape_adopt parent helement
  have hthere : parent ∈ tree.shape.handles := by
    rwa [handles_shape, h.mem_iff]
  constructor
  · intro node
    rw [← handles_shape, hshape, size_adopt, Nat.lt_succ_iff_lt_or_eq, ← h.mem_iff, ← handles_shape]
    constructor
    · intro hnode
      apply (Forest.mem_handles_graft hnode).imp_right
      intro hnew
      rw [List.mem_singleton.mp hnew]
    · rintro (hold | hnew)
      · exact Forest.mem_handles_graft_of_mem hold
      · obtain ⟨index⟩ := node
        obtain rfl : index = tree.size := hnew
        exact Forest.mem_handles_graft_of_branch hthere List.mem_cons_self
  · rw [← handles_shape, hshape]
    apply Forest.nodup_handles_graft
    · rw [handles_shape]
      exact h.nodup
    · exact List.nodup_singleton _
    · intro node hnode hold
      rw [List.mem_singleton.mp hnode, handles_shape, h.mem_iff] at hold
      exact Nat.lt_irrefl _ hold

/-- A change that leaves the children of an element alone changes no count. -/
theorem Counted.modify {tree : ElementTree} (h : tree.Counted) (node : NodeId)
    {f : Element → Element} (hf : ∀ element, (f element).children = element.children) :
    (tree.modify node f).Counted := by
  have hhandles := handles_whole_modify tree node hf
  exact ⟨fun other ↦ by rw [hhandles, h.mem_iff, size_modify], hhandles ▸ h.nodup⟩

/-- The root alone is counted. -/
theorem counted_empty : Counted .empty where
  mem_iff := by
    rintro ⟨index⟩
    have hhandles : ElementTree.empty.whole.handles = [⟨0⟩] := rfl
    have hsize : ElementTree.empty.size = 1 := rfl
    rw [hhandles, hsize, List.mem_singleton, NodeId.mk.injEq, Nat.lt_one_iff]
  nodup := List.nodup_singleton _

/-- Every element of a reachable tree is in its forest, once. -/
theorem Reachable.counted {tree : ElementTree} (h : tree.Reachable) : tree.Counted :=
  h.of_kept counted_empty (fun _ _ htree hparent hcounted ↦ hcounted.adopt htree.grown hparent rfl)
    fun node change hcounted ↦ hcounted.modify node fun element ↦ element.children_apply change

/-- A tree shows as many elements as it has. -/
theorem Counted.size_whole {tree : ElementTree} (h : tree.Counted) :
    tree.whole.size = tree.size := by
  have hinjective : Function.Injective NodeId.index := fun _ _ ↦ congrArg NodeId.mk
  have hperm : (tree.whole.handles.map NodeId.index).Perm (List.range tree.size) := by
    rw [List.perm_ext_iff_of_nodup (h.nodup.map hinjective) List.nodup_range]
    intro index
    rw [List.mem_range, ← h.mem_iff ⟨index⟩]
    exact List.mem_map_of_injective hinjective
  have hlength := hperm.length_eq
  rwa [List.length_map, List.length_range, Forest.handles, List.length_map,
    Forest.length_preorder] at hlength

/-- Under the root of a reachable tree are all its elements but the root. -/
theorem Reachable.size_forest {tree : ElementTree} (h : tree.Reachable) :
    tree.forest.size + 1 = tree.size := by
  obtain ⟨element, below, hshape, -, hbelow⟩ := h.grown.shape_eq
  have hsize : tree.shape.size = tree.size := by
    rw [shape, Forest.size_map, h.counted.size_whole]
  rw [← hsize, hshape, ← Forest.size_map Element.bare, ← hbelow, Forest.size_map]
  rfl

end Colloquy.ElementTree
