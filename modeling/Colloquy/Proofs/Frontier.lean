import Colloquy.Proofs.Census

/-!
# The frontier of a tree

Handles are numbered in the order of creation. So a tree is in document order if its handles are in
ascending order there, and it stays so for as long as each new element comes last in the document:
that is, for as long as it is put below the last element of the document or below one of those that
this is in. These elements are the trail of the tree. The frontier of a tree is its size together
with its trail, while it is in document order; that is all one has to know of a tree to tell whether
requests keep it in that order.
-/

namespace Colloquy

/-- Everything up to a node is left out, and the node is kept. -/
theorem dropWhile_ne_append_cons {inner outer : List NodeId} {node : NodeId} (h : node ∉ inner) :
    (inner ++ node :: outer).dropWhile (· ≠ node) = node :: outer := by
  rw [List.dropWhile_append_of_pos, List.dropWhile_cons_of_neg]
  · simp
  · intro other hother
    rw [decide_eq_true_eq]
    rintro rfl
    exact h hother

namespace Forest

variable {α β : Type}

/-- The handles from the last node in document order up to the one at the top that this is in. -/
def trail : Forest (NodeId × α) → List NodeId
  | .nil => []
  | .cons label children .nil => children.trail ++ [label.1]
  | .cons _ _ (.cons label children siblings) => (cons label children siblings).trail

@[simp]
theorem trail_cons_nil (label : NodeId × α) (children : Forest (NodeId × α)) :
    (cons label children nil).trail = children.trail ++ [label.1] := rfl

/-- The last node is among the siblings, if there are any. -/
theorem trail_cons_of_ne_nil {siblings : Forest (NodeId × α)} (h : siblings ≠ nil)
    (label : NodeId × α) (children : Forest (NodeId × α)) :
    (cons label children siblings).trail = siblings.trail := by
  cases siblings with
  | nil => exact absurd rfl h
  | cons label' children' siblings' => rfl

/-- The nodes of the trail are nodes of the forest. -/
theorem mem_handles_of_mem_trail {forest : Forest (NodeId × α)} {node : NodeId}
    (h : node ∈ forest.trail) : node ∈ forest.handles := by
  induction forest with
  | nil => cases h
  | cons label children siblings ihc ihs =>
    rw [handles_cons, List.mem_cons, List.mem_append]
    by_cases hsiblings : siblings = nil
    · subst hsiblings
      rw [trail_cons_nil, List.mem_append, List.mem_singleton] at h
      exact h.elim (fun hc ↦ .inr (.inl (ihc hc))) .inl
    · rw [trail_cons_of_ne_nil hsiblings] at h
      exact .inr (.inr (ihs h))

/-- Relabelling that keeps the handles keeps the trail. -/
theorem trail_map (f : NodeId × α → NodeId × β) (hf : ∀ entry, (f entry).1 = entry.1)
    (forest : Forest (NodeId × α)) : (forest.map f).trail = forest.trail := by
  induction forest with
  | nil => rfl
  | cons label children siblings ihc ihs =>
    cases siblings with
    | nil => rw [map, map, trail_cons_nil, trail_cons_nil, ihc, hf]
    | cons label' children' siblings' => exact ihs

/-- A new leaf at the end of the first level is a trail by itself. -/
theorem trail_append_leaf (forest : Forest (NodeId × α)) (leaf : NodeId × α) :
    (forest ++ cons leaf nil nil).trail = [leaf.1] := by
  induction forest with
  | nil => rfl
  | cons label children siblings _ ihs =>
    have hne : siblings ++ cons leaf nil nil ≠ nil := by
      cases siblings <;> exact fun h ↦ nomatch h
    rw [cons_append, trail_cons_of_ne_nil hne, ihs]

/-- Grafting does not empty a forest. -/
theorem graft_ne_nil {forest : Forest (NodeId × α)} (h : forest ≠ nil) (parent : NodeId)
    (branch : Forest (NodeId × α)) : forest.graft parent branch ≠ nil := by
  cases forest with
  | nil => exact absurd rfl h
  | cons label children siblings => exact fun hnil ↦ nomatch hnil

/-- A leaf that is grafted below a node of the trail comes last, and the trail goes from there to
that node. -/
theorem graft_of_mem_trail {forest : Forest (NodeId × α)} (hnodup : forest.handles.Nodup)
    {parent : NodeId} (hparent : parent ∈ forest.trail) (leaf : NodeId × α) :
    (forest.graft parent (cons leaf nil nil)).handles = forest.handles ++ [leaf.1] ∧
      (forest.graft parent (cons leaf nil nil)).trail =
        leaf.1 :: forest.trail.dropWhile (· ≠ parent) := by
  induction forest with
  | nil => cases hparent
  | cons label children siblings ihc ihs =>
    rw [handles_cons, List.nodup_cons, List.mem_append, not_or, List.nodup_append] at hnodup
    obtain ⟨⟨hlc, hls⟩, hc, hs, hcs⟩ := hnodup
    by_cases hsiblings : siblings = nil
    · subst hsiblings
      rw [trail_cons_nil, List.mem_append, List.mem_singleton] at hparent
      simp only [graft, trail_cons_nil, handles_cons, handles_nil, List.append_nil]
      by_cases hlabel : label.1 = parent
      · subst hlabel
        have hnot : label.1 ∉ children.trail := mt mem_handles_of_mem_trail hlc
        rw [if_pos rfl, graft_of_not_mem hlc, handles_append, trail_append_leaf,
          dropWhile_ne_append_cons hnot]
        exact ⟨rfl, rfl⟩
      · obtain hparent | rfl := hparent
        · obtain ⟨hhandles, htrail⟩ := ihc hc hparent
          obtain ⟨inner, outer, heq, hinner⟩ := List.eq_append_cons_of_mem hparent
          rw [heq, dropWhile_ne_append_cons hinner] at htrail
          simp only [if_neg hlabel, hhandles, htrail, heq, List.append_assoc, List.cons_append,
            dropWhile_ne_append_cons hinner, and_self]
        · exact absurd rfl hlabel
    · rw [trail_cons_of_ne_nil hsiblings] at hparent
      have hmem : parent ∈ siblings.handles := mem_handles_of_mem_trail hparent
      have hlabel : label.1 ≠ parent := by
        rintro rfl
        exact hls hmem
      have hnot : parent ∉ children.handles := fun hmem' ↦ hcs parent hmem' parent hmem rfl
      obtain ⟨hhandles, htrail⟩ := ihs hs hparent
      rw [graft, graft_of_not_mem hnot, if_neg hlabel,
        trail_cons_of_ne_nil (graft_ne_nil hsiblings _ _), trail_cons_of_ne_nil hsiblings,
        handles_cons, handles_cons, hhandles, List.cons_append, List.append_assoc]
      exact ⟨rfl, htrail⟩

/-- A leaf that is grafted anywhere else does not come last. -/
theorem getLast?_handles_graft {forest : Forest (NodeId × α)} {parent : NodeId}
    (hparent : parent ∉ forest.trail) (branch : Forest (NodeId × α)) :
    (forest.graft parent branch).handles.getLast? = forest.handles.getLast? := by
  induction forest with
  | nil => rfl
  | cons label children siblings ihc ihs =>
    by_cases hsiblings : siblings = nil
    · subst hsiblings
      rw [trail_cons_nil, List.mem_append, List.mem_singleton, not_or] at hparent
      obtain ⟨hchildren, hlabel⟩ := hparent
      simp only [graft, if_neg (Ne.symm hlabel), handles_cons, handles_nil, List.append_nil,
        List.getLast?_cons, ihc hchildren]
    · rw [trail_cons_of_ne_nil hsiblings] at hparent
      have hsome : ∃ last, siblings.handles.getLast? = some last := by
        cases siblings with
        | nil => exact absurd rfl hsiblings
        | cons first below later => exact ⟨_, List.getLast?_cons⟩
      obtain ⟨last, hlast⟩ := hsome
      simp only [graft, handles_cons, List.getLast?_cons, List.getLast?_append, ihs hparent, hlast,
        Option.some_or]

end Forest

namespace ElementTree

/-- The elements are in document order as they were created: in the order of their handles. -/
def InDocumentOrder (tree : ElementTree) : Prop :=
  tree.whole.handles = (List.range tree.size).map NodeId.mk

instance (tree : ElementTree) : Decidable tree.InDocumentOrder :=
  inferInstanceAs (Decidable (_ = _))

/-- The last element of the document and those that it is in. -/
def trail (tree : ElementTree) : List NodeId := tree.whole.trail

/-- The shape of a tree has its trail. -/
theorem trail_shape (tree : ElementTree) : tree.shape.trail = tree.trail :=
  Forest.trail_map bareEntry (fun _ ↦ rfl) _

/-- A change that leaves the children of an element alone changes no trail. -/
theorem trail_modify (tree : ElementTree) (node : NodeId) {f : Element → Element}
    (hf : ∀ element, (f element).children = element.children) :
    (tree.modify node f).trail = tree.trail := by
  rw [trail, whole_modify tree node hf, Forest.trail_map, trail]
  exact fun _ ↦ rfl

/-- A change that leaves the children of an element alone keeps the order and keeps it broken. -/
theorem inDocumentOrder_modify (tree : ElementTree) (node : NodeId) {f : Element → Element}
    (hf : ∀ element, (f element).children = element.children) :
    (tree.modify node f).InDocumentOrder ↔ tree.InDocumentOrder := by
  rw [InDocumentOrder, handles_whole_modify tree node hf, size_modify, InDocumentOrder]

/-- A new element below the trail comes last in the document, and the trail goes from there to its
parent. -/
theorem Counted.adopt_of_mem_trail {tree : ElementTree} (h : tree.Counted) (htree : tree.Grown)
    {parent : NodeId} (hparent : parent ∈ tree.trail) {element : Element}
    (helement : element.children = []) :
    (tree.adopt parent element).whole.handles = tree.whole.handles ++ [⟨tree.size⟩] ∧
      (tree.adopt parent element).trail = ⟨tree.size⟩ :: tree.trail.dropWhile (· ≠ parent) := by
  have hnodup : tree.shape.handles.Nodup := tree.handles_shape ▸ h.nodup
  have hgraft := Forest.graft_of_mem_trail hnodup (tree.trail_shape ▸ hparent)
    (⟨tree.size⟩, element)
  rwa [← htree.shape_adopt parent helement, handles_shape, handles_shape, trail_shape,
    trail_shape] at hgraft

/-- A new element keeps a tree in document order if it goes below the trail, and else breaks the
order; and it never restores the order. -/
theorem Counted.inDocumentOrder_adopt {tree : ElementTree} (h : tree.Counted) (htree : tree.Grown)
    {parent : NodeId} {element : Element} (helement : element.children = []) :
    (tree.adopt parent element).InDocumentOrder ↔
      tree.InDocumentOrder ∧ parent ∈ tree.trail := by
  have hrange : (List.range (tree.size + 1)).map NodeId.mk =
      (List.range tree.size).map NodeId.mk ++ [⟨tree.size⟩] := by
    rw [List.range_succ, List.map_append]
    rfl
  rw [InDocumentOrder, size_adopt, hrange]
  by_cases hparent : parent ∈ tree.trail
  · rw [(h.adopt_of_mem_trail htree hparent helement).1, List.append_left_inj, InDocumentOrder]
    exact (and_iff_left hparent).symm
  · refine ⟨fun horder ↦ ?_, fun hboth ↦ absurd hboth.2 hparent⟩
    -- The new element would be the last one, but the last one is an old one still.
    have hlast := Forest.getLast?_handles_graft (tree.trail_shape ▸ hparent)
      (.cons ((⟨tree.size⟩ : NodeId), element) .nil .nil)
    rw [← htree.shape_adopt parent helement, handles_shape, handles_shape, horder,
      List.getLast?_concat] at hlast
    have hmem := (h.mem_iff _).mp (List.mem_of_getLast? hlast.symm)
    exact absurd hmem (Nat.lt_irrefl _)

end ElementTree

/-! ### Frontiers -/

/-- The size of a tree, and its trail if it is in document order. -/
structure Frontier where
  size : Nat
  trail? : Option (List NodeId)

namespace Frontier

/-- The frontier after one more element is created below a parent. -/
def create (frontier : Frontier) (parent : NodeId) : Frontier where
  size := frontier.size + 1
  trail? := frontier.trail?.bind fun trail ↦
    if parent ∈ trail then some (⟨frontier.size⟩ :: trail.dropWhile (· ≠ parent)) else none

@[simp]
theorem size_create (frontier : Frontier) (parent : NodeId) :
    (frontier.create parent).size = frontier.size + 1 := rfl

/-- An element below one of the trail is the next of the trail. -/
theorem create_of_trail?_eq {frontier : Frontier} {inner outer : List NodeId} {parent : NodeId}
    (h : frontier.trail? = some (inner ++ parent :: outer)) (hparent : parent ∉ inner) :
    frontier.create parent = ⟨frontier.size + 1, some (⟨frontier.size⟩ :: parent :: outer)⟩ := by
  have hmem : parent ∈ inner ++ parent :: outer := List.mem_append_right _ List.mem_cons_self
  rw [create, h, Option.bind_some, if_pos hmem, dropWhile_ne_append_cons hparent]

/-- An element below none of the trail breaks the order. -/
theorem trail?_create_of_not_mem {frontier : Frontier} {trail : List NodeId} {parent : NodeId}
    (h : frontier.trail? = some trail) (hparent : parent ∉ trail) :
    (frontier.create parent).trail? = none := by
  rw [create, h, Option.bind_some, if_neg hparent]

/-- A broken order is not restored. -/
theorem trail?_create_of_eq_none {frontier : Frontier} (h : frontier.trail? = none)
    (parent : NodeId) : (frontier.create parent).trail? = none := by
  rw [create, h, Option.bind_none]

end Frontier

namespace ElementTree

/-- The frontier of a tree. -/
def frontier (tree : ElementTree) : Frontier where
  size := tree.size
  trail? := if tree.InDocumentOrder then some tree.trail else none

@[simp]
theorem size_frontier (tree : ElementTree) : tree.frontier.size = tree.size := rfl

/-- A tree is in document order if its frontier has a trail. -/
theorem isSome_frontier (tree : ElementTree) :
    tree.frontier.trail?.isSome ↔ tree.InDocumentOrder := by
  rw [frontier]
  split <;> simp [*]

/-- An element is adopted as the frontier says. -/
theorem Counted.frontier_adopt {tree : ElementTree} (h : tree.Counted) (htree : tree.Grown)
    (parent : NodeId) {element : Element} (helement : element.children = []) :
    (tree.adopt parent element).frontier = tree.frontier.create parent := by
  simp only [frontier, Frontier.create, size_adopt, h.inDocumentOrder_adopt htree helement,
    Frontier.mk.injEq, true_and]
  by_cases horder : tree.InDocumentOrder
  · by_cases hparent : parent ∈ tree.trail
    · rw [if_pos ⟨horder, hparent⟩, (h.adopt_of_mem_trail htree hparent helement).2, if_pos horder,
        Option.bind_some, if_pos hparent]
    · rw [if_neg fun hboth ↦ hparent hboth.2, if_pos horder, Option.bind_some, if_neg hparent]
  · rw [if_neg fun hboth ↦ horder hboth.1, if_neg horder, Option.bind_none]

/-- A change that leaves the children of an element alone leaves the frontier alone. -/
theorem frontier_modify (tree : ElementTree) (node : NodeId) {f : Element → Element}
    (hf : ∀ element, (f element).children = element.children) :
    (tree.modify node f).frontier = tree.frontier := by
  simp only [frontier, size_modify, trail_modify tree node hf, inDocumentOrder_modify tree node hf]

end ElementTree

end Colloquy
