import Colloquy.Proofs.Outline
import Mathlib.Data.List.Nodup

/-!
# Parents and walks

The lists of children make a tree of the elements: each element but the root is in exactly one of
them, once, and is younger than its parent. Every call keeps it so, whatever node it names. So a
walk that visits a node and then walks through its children comes to an end, though nothing bounds
its depth, and it visits every element once; the elements of each role are found on that walk.
-/

namespace Colloquy

/-- The node that a call names. -/
def SinkCall.node : SinkCall → NodeId
  | .create parent _ _ => parent
  | .edit node _ => node

namespace ElementTree

/-- The second node is among the children of the first. -/
def IsChild (tree : ElementTree) (parent child : NodeId) : Prop :=
  ∃ element, tree.get? parent = some element ∧ child ∈ element.children

/-- The lists of children link each element but the root to one older element. -/
structure Linked (tree : ElementTree) : Prop where
  /-- Children are listed in the order of their creation, and so each of them once. -/
  ascending : ∀ ⦃node element⦄, tree.get? node = some element →
    element.children.Pairwise fun child next ↦ child.index < next.index
  /-- A child is an element, and younger than its parent. -/
  bounds : ∀ ⦃parent child⦄, tree.IsChild parent child →
    parent.index < child.index ∧ child.index < tree.size
  /-- Each element but the root has one parent. -/
  unique_parent : ∀ ⦃child : NodeId⦄, child ≠ root → child.index < tree.size →
    ∃! parent, tree.IsChild parent child

/-- A walk from some nodes, with the nodes that it visits in their order: a node that is not there
is passed over, any other is visited before what is below it, and that before the nodes after it. -/
inductive Walk (tree : ElementTree) : List NodeId → List NodeId → Prop
  | nil : tree.Walk [] []
  | missing {node : NodeId} {rest visited : List NodeId} : tree.get? node = none →
      tree.Walk rest visited → tree.Walk (node :: rest) visited
  | visit {node : NodeId} {element : Element} {rest below later : List NodeId} :
      tree.get? node = some element → tree.Walk element.children below → tree.Walk rest later →
      tree.Walk (node :: rest) (node :: (below ++ later))

/-! ### Links -/

/-- An adopted element is a child of its parent, and no other element becomes a child. -/
theorem isChild_adopt {tree : ElementTree} {parent : NodeId} (hparent : parent.index < tree.size)
    {element : Element} (helement : element.children = []) {node child : NodeId} :
    (tree.adopt parent element).IsChild node child ↔
      tree.IsChild node child ∨ node = parent ∧ child = ⟨tree.size⟩ := by
  have hold : ∀ {before}, tree.get? node = some before → node ≠ ⟨tree.size⟩ := fun hbefore ↦
    ne_next_of_lt_size (lt_size_of_get? hbefore)
  constructor
  · rintro ⟨after, hget, hmem⟩
    obtain ⟨-, rfl⟩ | ⟨before, hbefore, ⟨hnode, rfl⟩ | ⟨-, rfl⟩⟩ := cases_of_get?_adopt hget
    · rw [helement] at hmem
      cases hmem
    · obtain hmem | hmem := List.mem_append.mp hmem
      · exact .inl ⟨before, hbefore, hmem⟩
      · exact .inr ⟨hnode, List.mem_singleton.mp hmem⟩
    · exact .inl ⟨after, hbefore, hmem⟩
  · rintro (⟨before, hbefore, hmem⟩ | ⟨rfl, rfl⟩)
    · rw [IsChild, get?_adopt, if_neg (hold hbefore), hbefore]
      split
      · exact ⟨_, rfl, List.mem_append_left _ hmem⟩
      · exact ⟨before, rfl, hmem⟩
    · obtain ⟨before, hbefore⟩ := exists_get? hparent
      rw [IsChild, get?_adopt, if_neg (hold hbefore), if_pos rfl, hbefore]
      exact ⟨_, rfl, List.mem_append_right _ List.mem_cons_self⟩

/-- A change that leaves the children of an element alone links no other elements. -/
theorem isChild_modify {tree : ElementTree} {node : NodeId} {f : Element → Element}
    (hf : ∀ element, (f element).children = element.children) {parent child : NodeId} :
    (tree.modify node f).IsChild parent child ↔ tree.IsChild parent child := by
  unfold IsChild
  rw [get?_modify]
  split
  · cases tree.get? parent with
    | none => rfl
    | some before => simp only [Option.map_some, Option.some.injEq, exists_eq_left', hf]
  · rfl

/-- A parent is an element. -/
theorem IsChild.lt_size {tree : ElementTree} {parent child : NodeId}
    (h : tree.IsChild parent child) : parent.index < tree.size := by
  obtain ⟨element, hget, -⟩ := h
  exact lt_size_of_get? hget

/-- The root alone has no links. -/
theorem linked_empty : Linked .empty := by
  have hchildren : ∀ {node element}, empty.get? node = some element → element.children = [] := by
    rintro ⟨_ | index⟩ element hget <;> cases hget
    rfl
  constructor
  · intro node element hget
    rw [hchildren hget]
    exact .nil
  · rintro parent child ⟨element, hget, hmem⟩
    rw [hchildren hget] at hmem
    cases hmem
  · rintro ⟨_ | index⟩ hroot hlt
    · exact absurd rfl hroot
    · exact absurd hlt (Nat.not_lt_of_le (Nat.le_add_left 1 index))

/-- Adopting an element links it to its parent. -/
theorem Linked.adopt {tree : ElementTree} (h : tree.Linked) {parent : NodeId}
    (hparent : parent.index < tree.size) {element : Element} (helement : element.children = []) :
    (tree.adopt parent element).Linked where
  ascending := by
    intro node after hget
    obtain ⟨-, rfl⟩ | ⟨before, hbefore, ⟨-, rfl⟩ | ⟨-, rfl⟩⟩ := cases_of_get?_adopt hget
    · rw [helement]
      exact .nil
    · rw [List.pairwise_append]
      refine ⟨h.ascending hbefore, List.pairwise_singleton _ _, ?_⟩
      intro child hchild next hnext
      rw [List.mem_singleton.mp hnext]
      exact (h.bounds ⟨before, hbefore, hchild⟩).2
    · exact h.ascending hbefore
  bounds := by
    intro node child hchild
    rw [size_adopt]
    obtain hold | ⟨rfl, rfl⟩ := (isChild_adopt hparent helement).mp hchild
    · have := h.bounds hold
      omega
    · exact ⟨hparent, Nat.lt_succ_self _⟩
  unique_parent := by
    intro child hroot hlt
    rw [size_adopt, Nat.lt_succ_iff_lt_or_eq] at hlt
    simp only [isChild_adopt hparent helement]
    obtain hold | hnew := hlt
    · -- An old child is not the new one, so its parent is the one it had.
      have hne : child ≠ ⟨tree.size⟩ := ne_next_of_lt_size hold
      simpa only [hne, and_false, or_false] using h.unique_parent hroot hold
    · obtain ⟨index⟩ := child
      subst hnew
      refine ⟨parent, .inr ⟨rfl, rfl⟩, ?_⟩
      rintro other (hother | ⟨rfl, -⟩)
      · exact absurd (h.bounds hother).2 (Nat.lt_irrefl _)
      · rfl

/-- A change that leaves the children of an element alone keeps all links. -/
theorem Linked.modify {tree : ElementTree} (h : tree.Linked) (node : NodeId)
    {f : Element → Element} (hf : ∀ element, (f element).children = element.children) :
    (tree.modify node f).Linked where
  ascending := by
    intro other after hget
    obtain ⟨before, hbefore, ⟨-, rfl⟩ | ⟨-, rfl⟩⟩ := cases_of_get?_modify hget
    · rw [hf]
      exact h.ascending hbefore
    · exact h.ascending hbefore
  bounds := by
    intro parent child hchild
    rw [size_modify]
    exact h.bounds ((isChild_modify hf).mp hchild)
  unique_parent := by
    intro child hroot hlt
    rw [size_modify] at hlt
    simp only [isChild_modify hf]
    exact h.unique_parent hroot hlt

/-- Every reachable tree is linked. -/
theorem Reachable.linked {tree : ElementTree} (h : tree.Reachable) : tree.Linked :=
  h.of_kept linked_empty (fun _ _ _ hparent hlinked ↦ hlinked.adopt hparent rfl)
    fun node change hlinked ↦ hlinked.modify node fun element ↦ element.children_apply change

/-! ### Answers -/

/-- A call that names a missing node is refused with that node, and changes nothing. -/
theorem answer_of_size_le {tree : ElementTree} {call : SinkCall} (h : tree.size ≤ call.node.index) :
    sink.answer call tree = (.error (.unknownNode call.node), tree) := by
  cases call with
  | create parent role classes =>
    have hparent : ¬parent.index < tree.size := Nat.not_lt.mpr h
    simp only [Sink.answer, sink, ElementTree.create, if_neg hparent, SinkCall.node]
    rfl
  | edit node change =>
    have hnode : ¬node.index < tree.size := Nat.not_lt.mpr h
    simp only [Sink.answer, sink, ElementTree.edit, if_neg hnode, SinkCall.node]
    rfl

/-- An accepted call that creates a node answers with the next handle. -/
theorem answer_create {tree : ElementTree} {parent : NodeId} (h : parent.index < tree.size)
    (role : Role) (classes : List String) :
    sink.answer (.create parent role classes) tree =
      (.ok (⟨tree.size⟩ : NodeId), tree.adopt parent (.new role classes)) :=
  sink_create h role classes

/-- An accepted call that changes a node answers with nothing. -/
theorem answer_edit {tree : ElementTree} {node : NodeId} (h : node.index < tree.size)
    (change : Edit) :
    sink.answer (.edit node change) tree = (.ok (), tree.modify node (·.apply change)) :=
  sink_edit h change

/-- A call that names an element is accepted. -/
theorem exists_answer_of_lt_size {tree : ElementTree} {call : SinkCall}
    (h : call.node.index < tree.size) :
    ∃ reply after, sink.answer call tree = (.ok reply, after) := by
  cases call with
  | create parent role classes => exact ⟨_, _, answer_create h role classes⟩
  | edit node change => exact ⟨_, _, answer_edit h change⟩

/-- A new element has the number of the elements before it as its handle. -/
theorem eq_of_sink_create {tree after : ElementTree} {parent node : NodeId} {role : Role}
    {classes : List String} (h : sink.create parent role classes tree = (.ok node, after)) :
    node = ⟨tree.size⟩ ∧ after.size = tree.size + 1 := by
  by_cases hparent : parent.index < tree.size
  · rw [sink_create hparent] at h
    cases h
    exact ⟨rfl, size_adopt tree parent _⟩
  · simp only [sink, ElementTree.create, if_neg hparent] at h
    cases h

/-! ### Walks -/

/-- A walk visits the same nodes every time. -/
theorem Walk.unique {tree : ElementTree} {nodes visited visited' : List NodeId}
    (h : tree.Walk nodes visited) (h' : tree.Walk nodes visited') : visited = visited' := by
  induction h generalizing visited' with
  | nil =>
    cases h'
    rfl
  | missing hnone _ ih =>
    cases h' with
    | missing _ hrest => exact ih hrest
    | visit hget _ _ =>
      rw [hnone] at hget
      cases hget
  | visit hget _ _ ihb ihl =>
    cases h' with
    | missing hnone _ =>
      rw [hget] at hnone
      cases hnone
    | visit hget' hbelow hlater =>
      rw [hget] at hget'
      cases hget'
      rw [ihb hbelow, ihl hlater]

/-- A walk from some nodes comes to an end once it has gone as deep as there are younger
elements. -/
theorem Grown.walk_forestBelow {tree : ElementTree} (htree : tree.Grown) {depth : Nat}
    {nodes : List NodeId} (hnodes : ∀ node ∈ nodes, tree.size ≤ node.index + depth) :
    tree.Walk nodes (tree.forestBelow depth nodes).handles := by
  induction depth generalizing nodes with
  | zero =>
    induction nodes with
    | nil => exact .nil
    | cons first rest ihn =>
      obtain ⟨hfirst, hrest⟩ := List.forall_mem_cons.mp hnodes
      exact .missing (Array.getElem?_eq_none hfirst) (ihn hrest)
  | succ depth ihd =>
    induction nodes with
    | nil =>
      rw [forestBelow_nil]
      exact .nil
    | cons first rest ihn =>
      obtain ⟨hfirst, hrest⟩ := List.forall_mem_cons.mp hnodes
      cases hget : tree.get? first with
      | none =>
        simp only [forestBelow, List.foldr_cons, hget]
        exact .missing hget (ihn hrest)
      | some element =>
        rw [forestBelow_cons hget, Forest.handles_cons]
        refine .visit hget (ihd ?_) (ihn hrest)
        intro child hchild
        have := (htree.child_bounds hget hchild).1
        omega

/-- The walk from the root visits the nodes of the whole forest in document order. -/
theorem Grown.walk_root {tree : ElementTree} (htree : tree.Grown) :
    tree.Walk [root] tree.whole.handles := by
  apply htree.walk_forestBelow
  intro node hnode
  rw [List.mem_singleton.mp hnode]
  exact Nat.le_add_left _ _

/-! ### Elements by role -/

/-- The handles of a role are those of the walk whose elements have the role. -/
theorem findByRole_eq (tree : ElementTree) (role : Role) :
    tree.findByRole role =
      tree.whole.handles.filter fun node ↦ (tree.get? node).map Element.role = some role := by
  rw [findByRole, Forest.handles, List.filter_map]
  congr 1
  apply List.filter_congr
  intro entry hentry
  simp only [Function.comp_apply, get?_of_mem_forestBelow hentry, Option.map_some,
    Option.some.injEq]

/-- Every element is found under one role, once. -/
theorem Counted.perm_findByRole {tree : ElementTree} (h : tree.Counted) :
    (Role.all.flatMap tree.findByRole).Perm tree.whole.handles := by
  have hroles : Role.all.Nodup := by decide
  rw [List.perm_ext_iff_of_nodup _ h.nodup]
  · intro node
    simp only [List.mem_flatMap, findByRole_eq, List.mem_filter, decide_eq_true_eq]
    constructor
    · rintro ⟨role, -, hnode, -⟩
      exact hnode
    · intro hnode
      obtain ⟨element, hget⟩ := exists_get? ((h.mem_iff node).mp hnode)
      exact ⟨element.role, element.role.mem_all, hnode, by rw [hget, Option.map_some]⟩
  · rw [List.nodup_flatMap]
    constructor
    · intro role _
      rw [findByRole_eq]
      exact h.nodup.filter _
    · apply hroles.imp
      intro role role' hne node hnode hnode'
      simp only [findByRole_eq, List.mem_filter, decide_eq_true_eq] at hnode hnode'
      exact hne (Option.some.inj (hnode.2.symm.trans hnode'.2))

/-- The handles of all elements, each once, are those from the root to the last one created. -/
theorem Counted.perm_range {tree : ElementTree} (h : tree.Counted) :
    tree.whole.handles.Perm ((List.range tree.size).map NodeId.mk) := by
  have hinjective : Function.Injective NodeId.mk := fun _ _ ↦ congrArg NodeId.index
  rw [List.perm_ext_iff_of_nodup h.nodup (List.nodup_range.map hinjective)]
  rintro ⟨index⟩
  rw [h.mem_iff, List.mem_map_of_injective hinjective, List.mem_range]

end ElementTree

/-- Whatever calls an element tree has been sent, a call that names a missing node is refused with
that node and changes nothing, any other is accepted, and a new element is numbered by the elements
before it. The lists of children make a tree of the elements. So the walk from the root ends, on one
way only; it visits every element once, and the elements of the roles, each role in the order of the
walk, are all of them. -/
theorem linked_replay (calls : List SinkCall) :
    let tree := ElementTree.sink.replay calls .empty
    (∀ call : SinkCall, tree.size ≤ call.node.index →
      ElementTree.sink.answer call tree = (.error (.unknownNode call.node), tree)) ∧
    (∀ call : SinkCall, call.node.index < tree.size →
      ∃ reply after, ElementTree.sink.answer call tree = (.ok reply, after)) ∧
    (∀ parent role classes node after,
      ElementTree.sink.create parent role classes tree = (.ok node, after) →
        node = ⟨tree.size⟩ ∧ after.size = tree.size + 1) ∧
    tree.Linked ∧
    ∃ visited : List NodeId,
      (∀ nodes, tree.Walk [ElementTree.root] nodes ↔ nodes = visited) ∧
      visited.Perm ((List.range tree.size).map NodeId.mk) ∧
      (∀ role, tree.findByRole role =
        visited.filter fun node ↦ (tree.get? node).map Element.role = some role) ∧
      (Role.all.flatMap tree.findByRole).Perm ((List.range tree.size).map NodeId.mk) := by
  intro tree
  have htree : tree.Reachable := ElementTree.reachable_replay_empty calls
  have hwalk : tree.Walk [ElementTree.root] tree.whole.handles := htree.grown.walk_root
  refine ⟨fun _ ↦ ElementTree.answer_of_size_le, fun _ ↦ ElementTree.exists_answer_of_lt_size,
    fun _ _ _ _ _ ↦ ElementTree.eq_of_sink_create, htree.linked, tree.whole.handles, ?_,
    htree.counted.perm_range, tree.findByRole_eq,
    htree.counted.perm_findByRole.trans htree.counted.perm_range⟩
  intro nodes
  constructor
  · exact fun h ↦ h.unique hwalk
  · rintro rfl
    exact hwalk

/-- Two contents, the later one before the earlier one in the document, and two calls to nodes that
are not there yet. -/
def tangledCalls : List SinkCall :=
  [.edit ⟨1⟩ (.text "early"), .create ElementTree.root .bubble [], .create ⟨3⟩ .footer [],
    .create ElementTree.root .content [], .create ⟨1⟩ .content [], .edit ⟨3⟩ (.text "late")]

/-- The contents are found in document order, and the next call that names a missing node is
refused. -/
theorem linked_replay_tangledCalls :
    let tree := ElementTree.sink.replay tangledCalls .empty
    tree.size = 4 ∧ tree.Walk [ElementTree.root] [⟨0⟩, ⟨1⟩, ⟨3⟩, ⟨2⟩] ∧
      tree.findByRole .content = [⟨3⟩, ⟨2⟩] ∧
      ElementTree.sink.answer (.edit ⟨4⟩ (.text "")) tree = (.error (.unknownNode ⟨4⟩), tree) := by
  intro tree
  have hsize : tree.size = 4 := by decide +kernel
  obtain ⟨hrefused, -⟩ := linked_replay tangledCalls
  have hvisited : tree.whole.handles = [⟨0⟩, ⟨1⟩, ⟨3⟩, ⟨2⟩] := by decide +kernel
  have hends : tree.Walk [ElementTree.root] tree.whole.handles :=
    (ElementTree.reachable_replay_empty tangledCalls).grown.walk_root
  refine ⟨hsize, hvisited ▸ hends, by decide +kernel, hrefused (.edit ⟨4⟩ (.text "")) ?_⟩
  rw [hsize]
  exact Nat.le_refl 4

end Colloquy
