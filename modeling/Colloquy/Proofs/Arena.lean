import Colloquy.ElementTree.View
import Colloquy.Proofs.Grafting

/-!
# Growth of element trees

An element tree only ever grows: a new element goes to the end of its parent's children, and
children come after their parents in order of creation. That order bounds every path, so the
forest that is read off a tree holds every element below the root, and a new element shows in it
as one graft.

What a tree shows is its `shape`: the whole forest, each element under its own handle and
without the handles of its children.
-/

namespace Colloquy

/-- The element without the handles of its children. -/
def Element.bare (element : Element) : Element := { element with children := [] }

/-- The element with another content. -/
def Element.fill (element : Element) (content : Option Content) : Element :=
  { element with content }

/-- An element without children is bare. -/
theorem Element.bare_eq_self {element : Element} (h : element.children = []) :
    element.bare = element := by
  rw [bare, ← h]

/-- A change to an element leaves its children alone. -/
@[simp]
theorem Element.children_apply (element : Element) (change : Edit) :
    (element.apply change).children = element.children := by
  cases change <;> rfl

namespace ElementTree

/-- The trees that requests make of the root alone. A refused request changes nothing. -/
inductive Reachable : ElementTree → Prop
  | empty : Reachable .empty
  | create {tree tree' : ElementTree} {parent node : NodeId} {role : Role}
      {classes : List String} : Reachable tree →
      tree.create parent role classes = .ok (node, tree') → Reachable tree'
  | edit {tree tree' : ElementTree} {node : NodeId} {change : Edit} : Reachable tree →
      tree.edit node change = .ok tree' → Reachable tree'

/-- The tree has its root, and children come after their parents in order of creation. -/
structure Grown (tree : ElementTree) : Prop where
  size_pos : 0 < tree.size
  child_bounds : ∀ {node child : NodeId} {element : Element}, tree.get? node = some element →
    child ∈ element.children → node.index < child.index ∧ child.index < tree.size

/-- Put an element at the end of the children of another. -/
def adopt (tree : ElementTree) (parent : NodeId) (element : Element) : ElementTree :=
  let linked := tree.modify parent fun before ↦
    { before with children := before.children ++ [⟨tree.size⟩] }
  ⟨linked.elements.push element⟩

/-- The entry of a node without the handles of its children. -/
def bareEntry (entry : NodeId × Element) : NodeId × Element := (entry.1, entry.2.bare)

/-- The whole forest, each element under its handle and without those of its children. -/
def shape (tree : ElementTree) : Forest (NodeId × Element) := tree.whole.map bareEntry

/-! ### Single requests -/

/-- An element has a handle below the size. -/
theorem lt_size_of_get? {tree : ElementTree} {node : NodeId} {element : Element}
    (h : tree.get? node = some element) : node.index < tree.size := by
  rw [get?, Array.getElem?_eq_some_iff] at h
  exact h.1

/-- A handle below the size is not the next one to be given. -/
theorem ne_next_of_lt_size {tree : ElementTree} {node : NodeId} (h : node.index < tree.size) :
    node ≠ ⟨tree.size⟩ := by
  rintro rfl
  exact Nat.lt_irrefl _ h

/-- Below the size every handle has an element. -/
theorem exists_get? {tree : ElementTree} {node : NodeId} (h : node.index < tree.size) :
    ∃ element, tree.get? node = some element :=
  ⟨_, Array.getElem?_eq_getElem h⟩

/-- Trees with the same element under each handle are equal. -/
theorem ext_get? {tree other : ElementTree} (h : ∀ node, tree.get? node = other.get? node) :
    tree = other := by
  obtain ⟨elements⟩ := tree
  obtain ⟨elements'⟩ := other
  rw [ElementTree.mk.injEq]
  exact Array.ext_getElem? fun i ↦ h ⟨i⟩

@[simp]
theorem size_modify (tree : ElementTree) (node : NodeId) (f : Element → Element) :
    (tree.modify node f).size = tree.size := by
  simp only [size, modify, Array.size_modify]

@[simp]
theorem size_adopt (tree : ElementTree) (parent : NodeId) (element : Element) :
    (tree.adopt parent element).size = tree.size + 1 := by
  simp only [size, adopt, modify, Array.size_push, Array.size_modify]

/-- The handle of the newest element is there. -/
theorem lt_size_adopt (tree : ElementTree) (parent : NodeId) (element : Element) :
    tree.size < (tree.adopt parent element).size := by
  rw [size_adopt]
  exact Nat.lt_succ_self _

/-- Reading after a change gives the changed element there and the old ones elsewhere. -/
theorem get?_modify (tree : ElementTree) (node other : NodeId) (f : Element → Element) :
    (tree.modify node f).get? other =
      if other = node then (tree.get? other).map f else tree.get? other := by
  obtain ⟨i⟩ := node
  obtain ⟨j⟩ := other
  simp only [get?, modify, Array.getElem?_modify, NodeId.mk.injEq, eq_comm]

/-- Two changes that agree on the element of a node change the tree alike. -/
theorem modify_congr {tree : ElementTree} {node : NodeId} {element : Element}
    (h : tree.get? node = some element) {f g : Element → Element} (hfg : f element = g element) :
    tree.modify node f = tree.modify node g := by
  obtain ⟨hlt, helement⟩ := Array.getElem?_eq_some_iff.mp h
  simp only [modify, ElementTree.mk.injEq]
  apply Array.ext
  · simp only [Array.size_modify]
  · intro i hi _
    simp only [Array.getElem_modify]
    split
    · next hi' =>
      subst hi'
      rw [helement, hfg]
    · rfl

/-- Reading after an adoption gives the new element under the new handle, the parent with one
child more, and everything else as it was. -/
theorem get?_adopt (tree : ElementTree) (parent other : NodeId) (element : Element) :
    (tree.adopt parent element).get? other =
      if other = ⟨tree.size⟩ then some element
      else if other = parent then
        (tree.get? other).map fun before ↦
          { before with children := before.children ++ [⟨tree.size⟩] }
      else tree.get? other := by
  have hsize : (tree.modify parent fun before ↦
      { before with children := before.children ++ [⟨tree.size⟩] }).elements.size = tree.size :=
    size_modify tree parent _
  rw [← get?_modify]
  obtain ⟨i⟩ := other
  simp only [get?, adopt, Array.getElem?_push, hsize, NodeId.mk.injEq]

/-- What is read after a change was there before, and is changed if it is under the handle of the
change. -/
theorem cases_of_get?_modify {tree : ElementTree} {node other : NodeId} {f : Element → Element}
    {after : Element} (h : (tree.modify node f).get? other = some after) :
    ∃ before, tree.get? other = some before ∧
      (other = node ∧ after = f before ∨ other ≠ node ∧ after = before) := by
  rw [get?_modify] at h
  split at h
  · next hnode =>
    obtain ⟨before, hbefore, rfl⟩ := Option.map_eq_some_iff.mp h
    exact ⟨before, hbefore, .inl ⟨hnode, rfl⟩⟩
  · next hnode => exact ⟨after, h, .inr ⟨hnode, rfl⟩⟩

/-- What is read after an adoption is the new element, or was there before, and has one child more
if it is the parent. -/
theorem cases_of_get?_adopt {tree : ElementTree} {parent other : NodeId} {element after : Element}
    (h : (tree.adopt parent element).get? other = some after) :
    other = ⟨tree.size⟩ ∧ after = element ∨
      ∃ before, tree.get? other = some before ∧
        (other = parent ∧ after = { before with children := before.children ++ [⟨tree.size⟩] } ∨
          other ≠ parent ∧ after = before) := by
  rw [get?_adopt] at h
  split at h
  · next hnew => exact .inl ⟨hnew, (Option.some.inj h).symm⟩
  · rw [← get?_modify] at h
    exact .inr (cases_of_get?_modify h)

/-- Creating a child adopts a new element. -/
theorem create_eq {tree : ElementTree} {parent : NodeId} (h : parent.index < tree.size)
    (role : Role) (classes : List String) :
    tree.create parent role classes = .ok (⟨tree.size⟩, tree.adopt parent (.new role classes)) := by
  simp only [create, if_pos h, adopt]

/-- A change to an element that is there is made. -/
theorem edit_eq {tree : ElementTree} {node : NodeId} (h : node.index < tree.size)
    (change : Edit) : tree.edit node change = .ok (tree.modify node (·.apply change)) := by
  simp only [edit, if_pos h]

/-- The tree as a sink adopts a new child. -/
theorem sink_create {tree : ElementTree} {parent : NodeId} (h : parent.index < tree.size)
    (role : Role) (classes : List String) :
    sink.create parent role classes tree =
      (.ok ⟨tree.size⟩, tree.adopt parent (.new role classes)) := by
  simp only [sink, create_eq h]

/-- The tree as a sink makes a change to an element that is there. -/
theorem sink_edit {tree : ElementTree} {node : NodeId} (h : node.index < tree.size)
    (change : Edit) : sink.edit node change tree = (.ok (), tree.modify node (·.apply change)) := by
  simp only [sink, edit_eq h]

/-- Changing the newest element is adopting the changed element. -/
theorem modify_adopt (tree : ElementTree) (parent : NodeId) (element : Element)
    (f : Element → Element) :
    (tree.adopt parent element).modify ⟨tree.size⟩ f = tree.adopt parent (f element) := by
  have hsize : (tree.elements.modify parent.index fun before ↦
      { before with children := before.children ++ [⟨tree.size⟩] }).size = tree.size :=
    Array.size_modify
  simp only [adopt, modify, ElementTree.mk.injEq]
  apply Array.ext
  · simp only [Array.size_modify, Array.size_push]
  · intro i hi _
    simp only [Array.getElem_modify, Array.getElem_push, hsize]
    grind

/-! ### Growth -/

/-- The root alone is grown. -/
theorem grown_empty : Grown empty where
  size_pos := Nat.one_pos
  child_bounds := by
    intro node child element hget hchild
    obtain ⟨i⟩ := node
    cases i with
    | zero =>
      cases hget
      cases hchild
    | succ i => cases hget

/-- Adopting an element without children below one that is there keeps a tree grown. -/
theorem Grown.adopt {tree : ElementTree} (htree : tree.Grown) {parent : NodeId}
    (hparent : parent.index < tree.size) {element : Element} (helement : element.children = []) :
    (tree.adopt parent element).Grown where
  size_pos := by rw [size_adopt]; omega
  child_bounds := by
    intro node child after hget hchild
    rw [size_adopt]
    obtain ⟨-, rfl⟩ | ⟨before, hbefore, ⟨hnode, rfl⟩ | ⟨-, rfl⟩⟩ := cases_of_get?_adopt hget
    · rw [helement] at hchild
      cases hchild
    · rcases List.mem_append.mp hchild with hold | hnew
      · have hb := htree.child_bounds hbefore hold
        omega
      · cases List.mem_singleton.mp hnew
        rw [hnode]
        exact ⟨hparent, Nat.lt_succ_self _⟩
    · have hb := htree.child_bounds hbefore hchild
      omega

/-- A change that leaves the children of an element alone keeps a tree grown. -/
theorem Grown.modify {tree : ElementTree} (htree : tree.Grown) (node : NodeId)
    {f : Element → Element} (hf : ∀ element, (f element).children = element.children) :
    (tree.modify node f).Grown where
  size_pos := by rw [size_modify]; exact htree.size_pos
  child_bounds := by
    intro other child after hget hchild
    rw [size_modify]
    obtain ⟨before, hbefore, ⟨-, rfl⟩ | ⟨-, rfl⟩⟩ := cases_of_get?_modify hget
    · rw [hf] at hchild
      exact htree.child_bounds hbefore hchild
    · exact htree.child_bounds hbefore hchild

/-- What holds of the root alone, and is kept by a new child of an element and by a change to one,
holds of every reachable tree. -/
theorem Reachable.of_kept {good : ElementTree → Prop} (hempty : good .empty)
    (hadopt : ∀ {tree : ElementTree} {parent : NodeId} (role : Role) (classes : List String),
      tree.Reachable → parent.index < tree.size → good tree →
        good (tree.adopt parent (.new role classes)))
    (hmodify : ∀ {tree : ElementTree} (node : NodeId) (change : Edit), good tree →
      good (tree.modify node (·.apply change)))
    {tree : ElementTree} (h : tree.Reachable) : good tree := by
  induction h with
  | empty => exact hempty
  | create htree hcreate ih =>
    unfold ElementTree.create at hcreate
    split at hcreate
    · next hparent =>
      cases hcreate
      exact hadopt _ _ htree hparent ih
    · cases hcreate
  | edit _ hedit ih =>
    unfold ElementTree.edit at hedit
    split at hedit
    · cases hedit
      exact hmodify _ _ ih
    · cases hedit

/-- Every reachable tree is grown. -/
theorem Reachable.grown {tree : ElementTree} (h : tree.Reachable) : tree.Grown :=
  h.of_kept grown_empty (fun _ _ _ hparent hgrown ↦ hgrown.adopt hparent rfl)
    fun node change hgrown ↦ hgrown.modify node fun element ↦ element.children_apply change

/-! ### The shape of a tree -/

/-- A missing level shows nothing. -/
@[simp]
theorem forestBelow_nil (tree : ElementTree) (depth : Nat) :
    tree.forestBelow depth [] = .nil := by
  cases depth <;> rfl

/-- The first of the handles shows its element with what is below that. -/
theorem forestBelow_cons {tree : ElementTree} {node : NodeId} {element : Element}
    (h : tree.get? node = some element) (depth : Nat) (nodes : List NodeId) :
    tree.forestBelow (depth + 1) (node :: nodes) =
      .cons (node, element) (tree.forestBelow depth element.children)
        (tree.forestBelow (depth + 1) nodes) := by
  simp only [forestBelow, List.foldr_cons, h]

/-- The forest below joined lists of elements that are there is joined. -/
theorem forestBelow_append (tree : ElementTree) (depth : Nat) {first : List NodeId}
    (hfirst : ∀ node ∈ first, node.index < tree.size) (second : List NodeId) :
    tree.forestBelow (depth + 1) (first ++ second) =
      tree.forestBelow (depth + 1) first ++ tree.forestBelow (depth + 1) second := by
  induction first with
  | nil => simp only [List.nil_append, forestBelow_nil, Forest.nil_append]
  | cons node rest ih =>
    obtain ⟨hnode, hrest⟩ := List.forall_mem_cons.mp hfirst
    obtain ⟨element, hget⟩ := exists_get? hnode
    simp only [List.cons_append, forestBelow_cons hget, ih hrest, Forest.cons_append]

/-- What is below some handles has no smaller handles, and only those of elements. -/
theorem Grown.bounds_of_mem_forestBelow {tree : ElementTree} (htree : tree.Grown) {bound depth : Nat}
    {nodes : List NodeId} (hnodes : ∀ node ∈ nodes, bound ≤ node.index) {node : NodeId}
    (h : node ∈ (tree.forestBelow depth nodes).handles) :
    bound ≤ node.index ∧ node.index < tree.size := by
  induction depth generalizing nodes bound with
  | zero => cases h
  | succ depth ihd =>
    induction nodes with
    | nil =>
      rw [forestBelow_nil] at h
      cases h
    | cons first rest ihn =>
      obtain ⟨hfirst, hrest⟩ := List.forall_mem_cons.mp hnodes
      cases hget : tree.get? first with
      | none =>
        simp only [forestBelow, List.foldr_cons, hget] at h
        exact ihn hrest h
      | some element =>
        simp only [forestBelow_cons hget, Forest.handles_cons, List.mem_cons, List.mem_append] at h
        rcases h with rfl | hbelow | hlater
        · exact ⟨hfirst, lt_size_of_get? hget⟩
        · have hchildren : ∀ child ∈ element.children, bound ≤ child.index := by
            intro child hchild
            have := (htree.child_bounds hget hchild).1
            omega
          exact ihd hchildren hbelow
        · exact ihn hrest hlater

/-- An adopted element shows at the end of what is below its parent. -/
theorem Grown.forestBelow_adopt {tree : ElementTree} (htree : tree.Grown) (parent : NodeId)
    {element : Element} (helement : element.children = []) {depth : Nat} {nodes : List NodeId}
    (hnodes : ∀ node ∈ nodes, node.index < tree.size ∧ tree.size ≤ node.index + depth) :
    ((tree.adopt parent element).forestBelow (depth + 1) nodes).map bareEntry =
      ((tree.forestBelow depth nodes).map bareEntry).graft parent
        (.cons (⟨tree.size⟩, element) .nil .nil) := by
  induction depth generalizing nodes with
  | zero =>
    cases nodes with
    | nil => rfl
    | cons first rest =>
      have := hnodes first List.mem_cons_self
      omega
  | succ depth ihd =>
    induction nodes with
    | nil => simp only [forestBelow_nil, Forest.map, Forest.graft]
    | cons first rest ihn =>
      obtain ⟨⟨hlt, hdepth⟩, hrest⟩ := List.forall_mem_cons.mp hnodes
      obtain ⟨before, hget⟩ := exists_get? hlt
      have hne : first ≠ ⟨tree.size⟩ := ne_next_of_lt_size hlt
      have hchildren : ∀ child ∈ before.children,
          child.index < tree.size ∧ tree.size ≤ child.index + depth := by
        intro child hchild
        have := htree.child_bounds hget hchild
        omega
      have hafter := get?_adopt tree parent first element
      rw [if_neg hne, hget] at hafter
      rw [forestBelow_cons hget]
      by_cases hparent : first = parent
      · rw [if_pos hparent, Option.map_some] at hafter
        have hnew : (tree.adopt parent element).get? ⟨tree.size⟩ = some element := by
          rw [get?_adopt, if_pos rfl]
        have hthere : ∀ child ∈ before.children,
            child.index < (tree.adopt parent element).size := by
          intro child hchild
          have := (hchildren child hchild).1
          rw [size_adopt]
          omega
        rw [forestBelow_cons hafter, forestBelow_append _ _ hthere, forestBelow_cons hnew,
          helement]
        simp only [Forest.map, Forest.map_append, forestBelow_nil, Forest.graft, ihd hchildren,
          ihn hrest, bareEntry, Element.bare_eq_self helement, hparent, if_true]
        rfl
      · rw [if_neg hparent] at hafter
        rw [forestBelow_cons hafter]
        simp only [Forest.map, Forest.graft, ihd hchildren, ihn hrest, bareEntry, if_neg hparent]

/-- Adopting an element grafts it below its parent. -/
theorem Grown.shape_adopt {tree : ElementTree} (htree : tree.Grown) (parent : NodeId)
    {element : Element} (helement : element.children = []) :
    (tree.adopt parent element).shape =
      tree.shape.graft parent (.cons (⟨tree.size⟩, element) .nil .nil) := by
  rw [shape, whole, size_adopt, shape, whole]
  apply htree.forestBelow_adopt parent helement
  intro node hnode
  cases List.mem_singleton.mp hnode
  exact ⟨htree.size_pos, Nat.le_add_left _ _⟩

/-- The shape of a grown tree is the root with the forest of the tree below it. -/
theorem Grown.shape_eq {tree : ElementTree} (htree : tree.Grown) :
    ∃ element below, tree.shape = .cons (root, element) below .nil ∧
      (∀ node ∈ below.handles, 0 < node.index ∧ node.index < tree.size) ∧
      below.map Prod.snd = tree.forest.map Element.bare := by
  obtain ⟨element, hget⟩ : ∃ element, tree.get? root = some element :=
    exists_get? htree.size_pos
  obtain ⟨depth, hdepth⟩ := Nat.exists_eq_add_one_of_ne_zero (Nat.ne_of_gt htree.size_pos)
  have hwhole : tree.whole =
      .cons (root, element) (tree.forestBelow depth element.children) .nil := by
    rw [whole, hdepth, forestBelow_cons hget, forestBelow_nil]
  refine ⟨element.bare, (tree.forestBelow depth element.children).map bareEntry, ?_, ?_, ?_⟩
  · rw [shape, hwhole]
    rfl
  · intro node hnode
    have hchildren : ∀ child ∈ element.children, 1 ≤ child.index :=
      fun child hchild ↦ (htree.child_bounds hget hchild).1
    apply htree.bounds_of_mem_forestBelow hchildren
    rwa [Forest.handles, Forest.preorder_map, List.map_map] at hnode
  · rw [forest, hwhole]
    simp only [Forest.map_map]
    rfl

end ElementTree
end Colloquy
