import Colloquy.Proofs.Arena

/-!
# Sequels

A block that is drawn into a tree which holds something already goes on from that tree as it would
go on from the root alone: below the shared root come first what was there and then what is new,
and the new elements are those of a tree of its own, under later handles. What is read off a tree
does not show the handles, so it is the reading of what was there followed by the reading of the
tree of its own.
-/

namespace Colloquy

/-- The element with its children under other names. -/
def Element.rename (rename : NodeId → NodeId) (element : Element) : Element :=
  { element with children := element.children.map rename }

namespace ElementTree

/-- The handles right below the root. -/
def tops (tree : ElementTree) : List NodeId := (tree.get? root).elim [] Element.children

/-- The handle that the node of a fresh tree has when the same is drawn into the base: the root is
shared, and every other node comes after those of the base. -/
def beyond (base : ElementTree) (node : NodeId) : NodeId :=
  if node = root then root else ⟨node.index + (base.size - 1)⟩

/-- The shared tree goes on from the base as the tree goes on from the root alone. -/
structure Continues (base tree shared : ElementTree) : Prop where
  base_grown : base.Grown
  grown : tree.Grown
  shared_grown : shared.Grown
  size_eq : shared.size = tree.size + (base.size - 1)
  get?_old : ∀ node, 0 < node.index → node.index < base.size → shared.get? node = base.get? node
  get?_new : ∀ node, 0 < node.index →
    shared.get? (base.beyond node) = (tree.get? node).map (Element.rename base.beyond)
  tops_eq : shared.tops = base.tops ++ tree.tops.map base.beyond

/-! ### Handles beyond the base -/

/-- A handle is the root or comes after the root. -/
theorem eq_root_or_pos (node : NodeId) : node = root ∨ 0 < node.index := by
  obtain ⟨_ | i⟩ := node
  · exact .inl rfl
  · exact .inr (Nat.succ_pos i)

@[simp]
theorem beyond_root (base : ElementTree) : base.beyond root = root := if_pos rfl

/-- After the root every handle moves by as many as the base has elements below its root. -/
theorem index_beyond (base : ElementTree) {node : NodeId} (h : 0 < node.index) :
    (base.beyond node).index = node.index + (base.size - 1) := by
  have hne : node ≠ root := by
    rintro rfl
    exact Nat.lt_irrefl 0 h
  rw [beyond, if_neg hne]

/-- Only the root goes to the root. -/
theorem index_beyond_pos (base : ElementTree) {node : NodeId} (h : 0 < node.index) :
    0 < (base.beyond node).index := by
  rw [base.index_beyond h]
  omega

/-- Different nodes go to different nodes. -/
theorem beyond_injective (base : ElementTree) : Function.Injective base.beyond := by
  intro node other h
  rcases eq_root_or_pos node with rfl | hnode
  · rcases eq_root_or_pos other with rfl | hother
    · rfl
    · have hindex := base.index_beyond_pos hother
      rw [← h, beyond_root] at hindex
      exact absurd hindex (Nat.lt_irrefl 0)
  · rcases eq_root_or_pos other with rfl | hother
    · have hindex := base.index_beyond_pos hnode
      rw [h, beyond_root] at hindex
      exact absurd hindex (Nat.lt_irrefl 0)
    · have hindex := congrArg NodeId.index h
      rw [base.index_beyond hnode, base.index_beyond hother] at hindex
      obtain ⟨i⟩ := node
      obtain ⟨j⟩ := other
      rw [NodeId.mk.injEq]
      exact Nat.add_right_cancel hindex

/-- What is below the root of a grown tree has its handles. -/
theorem Grown.bounds_of_mem_tops {tree : ElementTree} (htree : tree.Grown) {node : NodeId}
    (h : node ∈ tree.tops) : 0 < node.index ∧ node.index < tree.size := by
  obtain ⟨element, hget⟩ : ∃ element, tree.get? root = some element := exists_get? htree.size_pos
  rw [tops, hget] at h
  exact htree.child_bounds hget h

/-- An adopted element is below the root if its parent is the root. -/
theorem Grown.tops_adopt {tree : ElementTree} (htree : tree.Grown) (parent : NodeId)
    (element : Element) :
    (tree.adopt parent element).tops =
      if parent = root then tree.tops ++ [⟨tree.size⟩] else tree.tops := by
  have hne : root ≠ ⟨tree.size⟩ := ne_next_of_lt_size htree.size_pos
  obtain ⟨before, hget⟩ : ∃ element, tree.get? root = some element := exists_get? htree.size_pos
  rw [tops, get?_adopt, if_neg hne, tops, hget]
  by_cases hparent : parent = root
  · rw [if_pos hparent.symm, if_pos hparent]
    rfl
  · rw [if_neg fun h ↦ hparent h.symm, if_neg hparent]

/-- A change that leaves children alone leaves alone what is below the root. -/
theorem tops_modify (tree : ElementTree) (node : NodeId) {f : Element → Element}
    (hf : ∀ element, (f element).children = element.children) :
    (tree.modify node f).tops = tree.tops := by
  rw [tops, get?_modify, tops]
  cases tree.get? root with
  | none => split <;> rfl
  | some element =>
    split
    · exact hf element
    · rfl

/-! ### Steps of a sequel -/

namespace Continues

variable {base tree shared : ElementTree}

/-- Before anything is drawn the shared tree is the base. -/
theorem refl (hbase : base.Grown) : Continues base .empty base where
  base_grown := hbase
  grown := grown_empty
  shared_grown := hbase
  size_eq := by
    have := hbase.size_pos
    change base.size = 1 + (base.size - 1)
    omega
  get?_old _ _ _ := rfl
  get?_new := by
    intro node hnode
    have hpos := hbase.size_pos
    have hold : empty.get? node = none := Array.getElem?_eq_none hnode
    have hnew : base.get? (base.beyond node) = none := by
      apply Array.getElem?_eq_none
      rw [base.index_beyond hnode]
      change base.size ≤ _
      omega
    rw [hold, hnew, Option.map_none]
  tops_eq := (List.append_nil _).symm

/-- The next handle of the tree goes to the next one of the shared tree. -/
theorem beyond_size (h : Continues base tree shared) :
    base.beyond ⟨tree.size⟩ = ⟨shared.size⟩ := by
  have hindex : (base.beyond ⟨tree.size⟩).index = tree.size + (base.size - 1) :=
    base.index_beyond h.grown.size_pos
  rw [h.size_eq]
  exact congrArg NodeId.mk hindex

/-- A node that is in the tree is in the shared tree. -/
theorem beyond_lt_size (h : Continues base tree shared) {node : NodeId}
    (hnode : node.index < tree.size) : (base.beyond node).index < shared.size := by
  rcases eq_root_or_pos node with rfl | hpos
  · rw [beyond_root]
    exact h.shared_grown.size_pos
  · rw [base.index_beyond hpos, h.size_eq]
    omega

/-- No node of the base but the root goes by a handle of the sequel. -/
theorem ne_beyond (h : Continues base tree shared) {node : NodeId} (hpos : 0 < node.index)
    (hnode : node.index < base.size) (other : NodeId) : node ≠ base.beyond other := by
  rintro rfl
  rcases eq_root_or_pos other with rfl | hother
  · rw [beyond_root] at hpos
    exact Nat.lt_irrefl 0 hpos
  · have := h.base_grown.size_pos
    rw [base.index_beyond hother] at hnode
    omega

/-- The same element is adopted in both trees. -/
theorem adopt (h : Continues base tree shared) {parent : NodeId}
    (hparent : parent.index < tree.size) {element : Element} (helement : element.children = []) :
    Continues base (tree.adopt parent element) (shared.adopt (base.beyond parent) element) where
  base_grown := h.base_grown
  grown := h.grown.adopt hparent helement
  shared_grown := h.shared_grown.adopt (h.beyond_lt_size hparent) helement
  size_eq := by
    rw [size_adopt, size_adopt, h.size_eq]
    omega
  get?_old := by
    intro node hpos hnode
    rw [get?_adopt, ← h.beyond_size, if_neg (h.ne_beyond hpos hnode _),
      if_neg (h.ne_beyond hpos hnode _), h.get?_old node hpos hnode]
  get?_new := by
    intro node hpos
    simp only [get?_adopt, ← h.beyond_size, base.beyond_injective.eq_iff, h.get?_new node hpos]
    by_cases hnew : node = ⟨tree.size⟩
    · rw [if_pos hnew, if_pos hnew, Option.map_some, Element.rename, helement, List.map_nil,
        ← helement]
    · rw [if_neg hnew, if_neg hnew]
      by_cases hsame : node = parent
      · rw [if_pos hsame, if_pos hsame, Option.map_map, Option.map_map]
        congr 1
        funext before
        simp only [Function.comp_apply, Element.rename, List.map_append, List.map_cons,
          List.map_nil]
      · rw [if_neg hsame, if_neg hsame]
  tops_eq := by
    have hroot : base.beyond parent = root ↔ parent = root := by
      rw [← base.beyond_root, base.beyond_injective.eq_iff, beyond_root]
    rw [h.shared_grown.tops_adopt, h.grown.tops_adopt, h.tops_eq]
    by_cases hparent : parent = root
    · rw [if_pos (hroot.mpr hparent), if_pos hparent, List.map_append, ← List.append_assoc,
        List.map_singleton, h.beyond_size]
    · rw [if_neg fun hmem ↦ hparent (hroot.mp hmem), if_neg hparent]

/-- The same change is made in both trees. -/
theorem edit (h : Continues base tree shared) (node : NodeId) (change : Edit) :
    Continues base (tree.modify node (·.apply change))
      (shared.modify (base.beyond node) (·.apply change)) where
  base_grown := h.base_grown
  grown := h.grown.modify node fun element ↦ element.children_apply change
  shared_grown := h.shared_grown.modify _ fun element ↦ element.children_apply change
  size_eq := by
    rw [size_modify, size_modify, h.size_eq]
  get?_old := by
    intro other hpos hother
    rw [get?_modify, if_neg (h.ne_beyond hpos hother _), h.get?_old other hpos hother]
  get?_new := by
    intro other hpos
    simp only [get?_modify, base.beyond_injective.eq_iff, h.get?_new other hpos]
    by_cases hsame : other = node
    · rw [if_pos hsame, if_pos hsame, Option.map_map, Option.map_map]
      congr 1
      funext element
      cases change <;> rfl
    · rw [if_neg hsame, if_neg hsame]
  tops_eq := by
    rw [tops_modify _ _ fun element ↦ element.children_apply change,
      tops_modify _ _ fun element ↦ element.children_apply change, h.tops_eq]

end Continues

/-! ### Reading a sequel -/

/-- Handles past the last element show nothing. -/
theorem forestBelow_of_size_le {tree : ElementTree} {nodes : List NodeId}
    (h : ∀ node ∈ nodes, tree.size ≤ node.index) (depth : Nat) :
    tree.forestBelow depth nodes = .nil := by
  cases depth with
  | zero => rfl
  | succ depth =>
    induction nodes with
    | nil => rfl
    | cons node rest ih =>
      obtain ⟨hnode, hrest⟩ := List.forall_mem_cons.mp h
      have hget : tree.get? node = none := Array.getElem?_eq_none hnode
      have hlater := ih hrest
      simp only [forestBelow, List.foldr_cons, hget] at hlater ⊢
      exact hlater

/-- More levels than a grown tree has below some handles show nothing more. -/
theorem Grown.forestBelow_of_le {tree : ElementTree} (htree : tree.Grown) {depth more : Nat}
    (hle : depth ≤ more) {nodes : List NodeId}
    (hnodes : ∀ node ∈ nodes, tree.size ≤ node.index + depth) :
    tree.forestBelow more nodes = tree.forestBelow depth nodes := by
  induction depth generalizing more nodes with
  | zero => rw [forestBelow_of_size_le hnodes, forestBelow_of_size_le hnodes]
  | succ depth ihd =>
    obtain ⟨more, rfl⟩ := Nat.exists_eq_add_of_lt hle
    induction nodes with
    | nil => rfl
    | cons node rest ihn =>
      obtain ⟨hnode, hrest⟩ := List.forall_mem_cons.mp hnodes
      have hlater := ihn hrest
      cases hget : tree.get? node with
      | none =>
        simp only [forestBelow, List.foldr_cons, hget] at hlater ⊢
        exact hlater
      | some element =>
        have hchildren : ∀ child ∈ element.children, tree.size ≤ child.index + depth := by
          intro child hchild
          have := (htree.child_bounds hget hchild).1
          omega
        rw [forestBelow_cons hget, forestBelow_cons hget, hlater,
          ihd (Nat.le_add_right depth more) hchildren]

/-- Under other names the same elements show the same forest, whatever is elsewhere in the trees. -/
theorem map_forestBelow_rename {tree other : ElementTree} {rename : NodeId → NodeId}
    (inside : NodeId → Prop)
    (hget : ∀ node, inside node →
      other.get? (rename node) = (tree.get? node).map (Element.rename rename))
    (hchildren : ∀ node element, inside node → tree.get? node = some element →
      ∀ child ∈ element.children, inside child)
    (depth : Nat) {nodes : List NodeId} (hnodes : ∀ node ∈ nodes, inside node) :
    (other.forestBelow depth (nodes.map rename)).map (fun entry ↦ entry.2.bare) =
      (tree.forestBelow depth nodes).map fun entry ↦ entry.2.bare := by
  induction depth generalizing nodes with
  | zero => rfl
  | succ depth ihd =>
    induction nodes with
    | nil => rfl
    | cons node rest ihn =>
      obtain ⟨hnode, hrest⟩ := List.forall_mem_cons.mp hnodes
      have hlater := ihn hrest
      have hother := hget node hnode
      cases hnone : tree.get? node with
      | none =>
        rw [hnone, Option.map_none] at hother
        simp only [forestBelow, List.map_cons, List.foldr_cons, hnone, hother] at hlater ⊢
        exact hlater
      | some element =>
        rw [hnone, Option.map_some] at hother
        have hbelow := ihd (hchildren node element hnode hnone)
        rw [List.map_cons, forestBelow_cons hother, forestBelow_cons hnone]
        simp only [Forest.map, hlater, Element.rename, hbelow]
        rfl

/-- The forest under the root is what is below the handles there, on enough levels. -/
theorem Grown.map_forest {tree : ElementTree} (htree : tree.Grown) (depth : Nat)
    (hdepth : tree.size ≤ depth + 1) :
    tree.forest.map Element.bare =
      (tree.forestBelow depth tree.tops).map fun entry ↦ entry.2.bare := by
  obtain ⟨element, hget⟩ : ∃ element, tree.get? root = some element := exists_get? htree.size_pos
  obtain ⟨levels, hlevels⟩ := Nat.exists_eq_add_one_of_ne_zero (Nat.ne_of_gt htree.size_pos)
  have htops : tree.tops = element.children := by
    rw [tops, hget, Option.elim_some]
  have hchildren : ∀ child ∈ element.children, tree.size ≤ child.index + levels := by
    intro child hchild
    have := (htree.child_bounds hget hchild).1
    rw [hlevels]
    omega
  have hwhole : tree.whole =
      .cons (root, element) (tree.forestBelow levels element.children) .nil := by
    rw [whole, hlevels, forestBelow_cons hget, forestBelow_nil]
  have hle : levels ≤ depth := by omega
  rw [forest, hwhole, htops, htree.forestBelow_of_le hle hchildren]
  exact Forest.map_map _ _ _

/-- What the shared tree shows is what the base shows and then what the other tree shows. -/
theorem Continues.forest_eq {base tree shared : ElementTree} (h : Continues base tree shared) :
    shared.forest.map Element.bare =
      base.forest.map Element.bare ++ tree.forest.map Element.bare := by
  have hbase := h.base_grown
  have hsize := h.size_eq
  have hpos := h.grown.size_pos
  have hrename : Element.rename id = id := funext fun element ↦ by
    rw [Element.rename, List.map_id]
    rfl
  have hold : (shared.forestBelow (shared.size + 1) (base.tops.map id)).map
      (fun entry ↦ entry.2.bare) =
      (base.forestBelow (shared.size + 1) base.tops).map fun entry ↦ entry.2.bare := by
    apply map_forestBelow_rename fun node ↦ 0 < node.index ∧ node.index < base.size
    · intro node hnode
      rw [hrename, Option.map_id, id, id, h.get?_old node hnode.1 hnode.2]
    · intro node element hnode hget child hchild
      have hbounds := hbase.child_bounds hget hchild
      exact ⟨Nat.lt_trans hnode.1 hbounds.1, hbounds.2⟩
    · exact fun node hnode ↦ hbase.bounds_of_mem_tops hnode
  have hnew : (shared.forestBelow (shared.size + 1) (tree.tops.map base.beyond)).map
      (fun entry ↦ entry.2.bare) =
      (tree.forestBelow (shared.size + 1) tree.tops).map fun entry ↦ entry.2.bare := by
    apply map_forestBelow_rename (fun node ↦ 0 < node.index) h.get?_new
    · intro node element hnode hget child hchild
      exact Nat.lt_trans hnode (h.grown.child_bounds hget hchild).1
    · exact fun node hnode ↦ (h.grown.bounds_of_mem_tops hnode).1
  have hthere : ∀ node ∈ base.tops, node.index < shared.size := by
    intro node hnode
    have := (hbase.bounds_of_mem_tops hnode).2
    omega
  rw [List.map_id] at hold
  -- One depth is enough for all three trees, so what is below the root can be compared at it.
  rw [h.shared_grown.map_forest (shared.size + 1) (by omega),
    hbase.map_forest (shared.size + 1) (by omega),
    h.grown.map_forest (shared.size + 1) (by omega), h.tops_eq,
    forestBelow_append _ _ hthere, Forest.map_append, hold, hnew]

/-! ### Serialised forests -/

/-- The outline does not show the handles of children. -/
theorem outlineOf_map_bare (depth : Nat) (forest : Forest Element) :
    outlineOf depth (forest.map Element.bare) = outlineOf depth forest := by
  induction forest generalizing depth with
  | nil => rfl
  | cons element children siblings ihc ihs =>
    simp only [Forest.map, outlineOf, ihc, ihs]
    rfl

/-- The outline of joined forests is the one after the other. -/
theorem outlineOf_append (depth : Nat) (first later : Forest Element) :
    outlineOf depth (first ++ later) = outlineOf depth first ++ outlineOf depth later := by
  induction first with
  | nil => exact String.empty_append.symm
  | cons element children siblings _ ihs =>
    simp only [Forest.cons_append, outlineOf, ihs, String.append_assoc]

/-- The HTML does not show the handles of children. -/
theorem htmlOf_map_bare (forest : Forest Element) :
    htmlOf (forest.map Element.bare) = htmlOf forest := by
  induction forest with
  | nil => rfl
  | cons element children siblings ihc ihs =>
    simp only [Forest.map, htmlOf, ihc, ihs]
    rfl

/-- The HTML of joined forests is the one after the other. -/
theorem htmlOf_append (first later : Forest Element) :
    htmlOf (first ++ later) = htmlOf first ++ htmlOf later := by
  induction first with
  | nil => exact String.empty_append.symm
  | cons element children siblings _ ihs =>
    simp only [Forest.cons_append, htmlOf, ihs, String.append_assoc]

/-- The outline of the shared tree is that of the base and then that of the other tree. -/
theorem Continues.outline_eq {base tree shared : ElementTree} (h : Continues base tree shared) :
    shared.outline = base.outline ++ tree.outline := by
  rw [outline, ← outlineOf_map_bare, h.forest_eq, outlineOf_append, outlineOf_map_bare,
    outlineOf_map_bare, outline, outline]

/-- The HTML of the shared tree is that of the base and then that of the other tree. -/
theorem Continues.toHtml_eq {base tree shared : ElementTree} (h : Continues base tree shared) :
    shared.toHtml = base.toHtml ++ tree.toHtml := by
  rw [toHtml, ← htmlOf_map_bare, h.forest_eq, htmlOf_append, htmlOf_map_bare, htmlOf_map_bare,
    toHtml, toHtml]

end ElementTree
end Colloquy
