import Colloquy.Forest
import Colloquy.Sink.Basic

/-!
# Grafting

Joining ordered forests, and adding a branch at the end of the children of a node. The nodes of
a forest that is grown this way carry the handle under which they were created, so a branch goes
below the node of a handle. Main laws: grafting twice below one node grafts the two branches one
after the other, and grafting below a node of a branch may be done before the branch is grafted.
-/

namespace Colloquy.Forest

variable {α β : Type}

@[simp]
theorem nil_append (later : Forest α) : nil ++ later = later := rfl

@[simp]
theorem cons_append (label : α) (children siblings later : Forest α) :
    cons label children siblings ++ later = cons label children (siblings ++ later) := rfl

@[simp]
theorem append_nil (forest : Forest α) : forest ++ nil = forest := by
  induction forest with
  | nil => rfl
  | cons label children siblings _ ihs => rw [cons_append, ihs]

/-- Joining forests is associative. -/
theorem append_assoc (first second third : Forest α) :
    first ++ second ++ third = first ++ (second ++ third) := by
  induction first with
  | nil => rfl
  | cons label children siblings _ ihs => simp only [cons_append, ihs]

/-- Relabelling goes through joining. -/
@[simp]
theorem map_append (f : α → β) (first second : Forest α) :
    (first ++ second).map f = first.map f ++ second.map f := by
  induction first with
  | nil => rfl
  | cons label children siblings _ ihs => simp only [cons_append, map, ihs]

/-- Relabelling twice is relabelling once. -/
theorem map_map {γ : Type} (g : β → γ) (f : α → β) (forest : Forest α) :
    (forest.map f).map g = forest.map (g ∘ f) := by
  induction forest with
  | nil => rfl
  | cons label children siblings ihc ihs => simp only [map, ihc, ihs, Function.comp_apply]

/-- Relabelling keeps the number of nodes. -/
theorem size_map (f : α → β) (forest : Forest α) : (forest.map f).size = forest.size := by
  rw [← length_preorder, preorder_map, List.length_map, length_preorder]

/-- The document order of joined forests is the one after the other. -/
@[simp]
theorem preorder_append (first second : Forest α) :
    (first ++ second).preorder = first.preorder ++ second.preorder := by
  induction first with
  | nil => rfl
  | cons label children siblings _ ihs =>
    simp only [cons_append, preorder, ihs, List.cons_append, List.append_assoc]

/-- The handles of the nodes, in document order. -/
def handles (forest : Forest (NodeId × α)) : List NodeId := forest.preorder.map Prod.fst

@[simp]
theorem handles_nil : (nil : Forest (NodeId × α)).handles = [] := rfl

@[simp]
theorem handles_cons (label : NodeId × α) (children siblings : Forest (NodeId × α)) :
    (cons label children siblings).handles =
      label.1 :: (children.handles ++ siblings.handles) := by
  simp only [handles, preorder, List.map_cons, List.map_append]

@[simp]
theorem handles_append (first second : Forest (NodeId × α)) :
    (first ++ second).handles = first.handles ++ second.handles := by
  simp only [handles, preorder_append, List.map_append]

/-- Add a branch after the children of every node of a handle. -/
def graft : Forest (NodeId × α) → NodeId → Forest (NodeId × α) → Forest (NodeId × α)
  | .nil, _, _ => .nil
  | .cons label children siblings, parent, branch =>
    let grown := children.graft parent branch
    .cons label (if label.1 = parent then grown ++ branch else grown)
      (siblings.graft parent branch)

/-- Grafting goes through joining. -/
@[simp]
theorem graft_append (parent : NodeId) (branch first second : Forest (NodeId × α)) :
    (first ++ second).graft parent branch =
      first.graft parent branch ++ second.graft parent branch := by
  induction first with
  | nil => rfl
  | cons label children siblings _ ihs => simp only [cons_append, graft, ihs]

/-- Nothing is grafted below a handle that is not there. -/
theorem graft_of_not_mem {parent : NodeId} {branch forest : Forest (NodeId × α)}
    (h : parent ∉ forest.handles) : forest.graft parent branch = forest := by
  induction forest with
  | nil => rfl
  | cons label children siblings ihc ihs =>
    simp only [handles_cons, List.mem_cons, List.mem_append, not_or] at h
    obtain ⟨hl, hc, hs⟩ := h
    simp only [graft, ihc hc, ihs hs, if_neg (Ne.symm hl)]

/-- A branch goes below a node at the root of a forest that has its handle nowhere else. -/
theorem graft_cons_self {node : NodeId} {label : α}
    {branch children siblings : Forest (NodeId × α)} (hc : node ∉ children.handles)
    (hs : node ∉ siblings.handles) :
    (cons (node, label) children siblings).graft node branch =
      cons (node, label) (children ++ branch) siblings := by
  simp only [graft, graft_of_not_mem hc, graft_of_not_mem hs, if_true]

/-- A branch goes past a node of another handle. -/
theorem graft_cons_of_ne {parent node : NodeId} {label : α}
    {branch children siblings : Forest (NodeId × α)} (hn : node ≠ parent) :
    (cons (node, label) children siblings).graft parent branch =
      cons (node, label) (children.graft parent branch) (siblings.graft parent branch) := by
  simp only [graft, if_neg hn]

/-- A branch goes below the inner of two nodes, one in the other. -/
theorem graft_nested {outer inner : NodeId} {label label' : α}
    {branch children : Forest (NodeId × α)} (hn : outer ≠ inner) (hc : inner ∉ children.handles) :
    (cons (outer, label) (cons (inner, label') children nil) nil).graft inner branch =
      cons (outer, label) (cons (inner, label') (children ++ branch) nil) nil := by
  rw [graft_cons_of_ne hn, graft_cons_self hc List.not_mem_nil]
  rfl

/-- Grafting twice below one node is grafting the two branches one after the other. -/
theorem graft_graft_same {parent : NodeId} {first second : Forest (NodeId × α)}
    (h : parent ∉ first.handles) (forest : Forest (NodeId × α)) :
    (forest.graft parent first).graft parent second = forest.graft parent (first ++ second) := by
  induction forest with
  | nil => rfl
  | cons label children siblings ihc ihs =>
    simp only [graft, ihs]
    split
    · rw [graft_append, ihc, graft_of_not_mem h, append_assoc]
    · rw [ihc]

/-- Grafting below a node that only the branch has is grafting the grown branch. -/
theorem graft_graft_fresh {parent node : NodeId} {first second forest : Forest (NodeId × α)}
    (h : node ∉ forest.handles) :
    (forest.graft parent first).graft node second =
      forest.graft parent (first.graft node second) := by
  induction forest with
  | nil => rfl
  | cons label children siblings ihc ihs =>
    simp only [handles_cons, List.mem_cons, List.mem_append, not_or] at h
    obtain ⟨hl, hc, hs⟩ := h
    simp only [graft, ihs hs, if_neg (Ne.symm hl)]
    split
    · rw [graft_append, ihc hc]
    · rw [ihc hc]

/-- Grafting nothing changes nothing. -/
@[simp]
theorem graft_nil (parent : NodeId) (forest : Forest (NodeId × α)) :
    forest.graft parent nil = forest := by
  induction forest with
  | nil => rfl
  | cons label children siblings ihc ihs => simp only [graft, ihc, ihs, append_nil, ite_self]

/-- Grafting brings no handles but those of the branch. -/
theorem mem_handles_graft {parent node : NodeId} {branch forest : Forest (NodeId × α)}
    (h : node ∈ (forest.graft parent branch).handles) :
    node ∈ forest.handles ∨ node ∈ branch.handles := by
  induction forest with
  | nil => cases h
  | cons label children siblings ihc ihs =>
    simp only [graft] at h
    split at h
    all_goals
      simp only [handles_cons, handles_append, List.mem_cons, List.mem_append] at h ⊢
      grind

/-- Grafting keeps all handles. -/
theorem mem_handles_graft_of_mem {parent node : NodeId} {branch forest : Forest (NodeId × α)}
    (h : node ∈ forest.handles) : node ∈ (forest.graft parent branch).handles := by
  induction forest with
  | nil => cases h
  | cons label children siblings ihc ihs =>
    simp only [graft]
    split
    all_goals
      simp only [handles_cons, handles_append, List.mem_cons, List.mem_append] at h ⊢
      grind

/-- Grafting below a node that is there brings the handles of the branch. -/
theorem mem_handles_graft_of_branch {parent node : NodeId} {branch forest : Forest (NodeId × α)}
    (hparent : parent ∈ forest.handles) (h : node ∈ branch.handles) :
    node ∈ (forest.graft parent branch).handles := by
  induction forest with
  | nil => cases hparent
  | cons label children siblings ihc ihs =>
    simp only [handles_cons, List.mem_cons, List.mem_append] at hparent
    simp only [graft, handles_cons, List.mem_cons, List.mem_append]
    obtain rfl | hchildren | hsiblings := hparent
    · rw [if_pos rfl, handles_append, List.mem_append]
      exact .inr (.inl (.inr h))
    · split
      · rw [handles_append, List.mem_append]
        exact .inr (.inl (.inr h))
      · exact .inr (.inl (ihc hchildren))
    · exact .inr (.inr (ihs hsiblings))

/-- Handles stay distinct when a branch of new ones is grafted. -/
theorem nodup_handles_graft {parent : NodeId} {branch forest : Forest (NodeId × α)}
    (hforest : forest.handles.Nodup) (hbranch : branch.handles.Nodup)
    (hnew : ∀ node ∈ branch.handles, node ∉ forest.handles) :
    (forest.graft parent branch).handles.Nodup := by
  induction forest with
  | nil => exact List.nodup_nil
  | cons label children siblings ihc ihs =>
    simp only [handles_cons, List.mem_cons, List.mem_append, not_or] at hnew
    simp only [handles_cons, List.nodup_cons, List.mem_append, not_or, List.nodup_append] at hforest
    obtain ⟨⟨hlc, hls⟩, hc, hs, hcs⟩ := hforest
    have hchildren := ihc hc fun node hnode ↦ (hnew node hnode).2.1
    have hsiblings := ihs hs fun node hnode ↦ (hnew node hnode).2.2
    -- The handle is at most once in the forest, so at most one of the three parts grows.
    by_cases hlabel : label.1 = parent
    · subst hlabel
      simp only [graft, graft_of_not_mem hlc, graft_of_not_mem hls, if_true, handles_cons,
        handles_append, List.nodup_cons, List.mem_append, List.nodup_append]
      grind
    · by_cases hparent : parent ∈ children.handles
      · have hnot : parent ∉ siblings.handles := fun hmem ↦ hcs parent hparent parent hmem rfl
        simp only [graft, graft_of_not_mem hnot, if_neg hlabel, handles_cons, List.nodup_cons,
          List.mem_append, List.nodup_append]
        grind [mem_handles_graft]
      · simp only [graft, graft_of_not_mem hparent, if_neg hlabel, handles_cons, List.nodup_cons,
          List.mem_append, List.nodup_append]
        grind [mem_handles_graft]

end Colloquy.Forest
