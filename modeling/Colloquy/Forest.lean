/-!
# Ordered forests

A forest is a list of trees, and the children of a tree form a forest again. Here a forest is
either empty or a first tree, given by its label and its children, followed by its siblings; that
makes it one plain inductive type.
-/

namespace Colloquy

/-- An ordered forest of labelled nodes. -/
inductive Forest (α : Type) where
  | nil
  | cons (label : α) (children siblings : Forest α)
  deriving DecidableEq, Repr

namespace Forest

variable {α β : Type}

/-- The number of nodes. -/
def size : Forest α → Nat
  | .nil => 0
  | .cons _ children siblings => children.size + siblings.size + 1

/-- The labels in document order: a node comes before its children, and these before its later
siblings. -/
def preorder : Forest α → List α
  | .nil => []
  | .cons label children siblings => label :: (children.preorder ++ siblings.preorder)

/-- Apply a function to every label. -/
def map (f : α → β) : Forest α → Forest β
  | .nil => .nil
  | .cons label children siblings => .cons (f label) (children.map f) (siblings.map f)

/-- One forest after another. -/
def append : Forest α → Forest α → Forest α
  | .nil, later => later
  | .cons label children siblings, later => .cons label children (siblings.append later)

instance : Append (Forest α) := ⟨append⟩

/-- Keep the nodes whose labels satisfy `p`; a node that goes takes its children with it. -/
def filter (p : α → Bool) : Forest α → Forest α
  | .nil => .nil
  | .cons label children siblings =>
    if p label then .cons label (children.filter p) (siblings.filter p) else siblings.filter p

/-- Document order lists every node once. -/
theorem length_preorder (forest : Forest α) : forest.preorder.length = forest.size := by
  induction forest with
  | nil => rfl
  | cons label children siblings ihc ihs => simp [preorder, size, ihc, ihs]

/-- Relabelling relabels the document order. -/
theorem preorder_map (f : α → β) (forest : Forest α) :
    (forest.map f).preorder = forest.preorder.map f := by
  induction forest with
  | nil => rfl
  | cons label children siblings ihc ihs => simp [preorder, map, ihc, ihs]

end Forest
end Colloquy
