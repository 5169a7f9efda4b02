import Colloquy.Proofs.Grafting
import Mathlib.Data.List.Forall2

/-!
# Forests of one shape

Two forests resemble each other when they have the same shape and their labels are related node
by node. The nodes of such forests correspond in document order, each with the forest below it.
-/

namespace Colloquy

variable {α β γ : Type}

/-- Lists that both correspond to a third one correspond. -/
theorem forall₂_of_common {r : α → γ → Prop} {s : β → γ → Prop}
    {first : List α} {second : List β} {common : List γ} (hfirst : List.Forall₂ r first common)
    (hsecond : List.Forall₂ s second common) :
    List.Forall₂ (fun a b ↦ ∃ c, r a c ∧ s b c) first second := by
  induction hfirst generalizing second with
  | nil =>
    cases hsecond
    exact .nil
  | cons hr _ ih =>
    cases hsecond with
    | cons hs hrest => exact .cons ⟨_, hr, hs⟩ (ih hrest)

namespace Forest

/-- The same shape, with related labels. -/
inductive Related (r : α → β → Prop) : Forest α → Forest β → Prop
  | nil : Related r .nil .nil
  | cons {a : α} {b : β} {below siblings : Forest α} {below' siblings' : Forest β} : r a b →
      Related r below below' → Related r siblings siblings' →
      Related r (.cons a below siblings) (.cons b below' siblings')

/-- A single node resembles a node with a related label. -/
theorem Related.leaf {r : α → β → Prop} {a : α} {b : β} (h : r a b) :
    Related r (.cons a .nil .nil) (.cons b .nil .nil) :=
  .cons h .nil .nil

/-- Forests that resemble each other do so under weaker demands. -/
theorem Related.mono {r weaker : α → β → Prop} {forest : Forest α} {other : Forest β}
    (h : Related r forest other) (himp : ∀ a b, r a b → weaker a b) :
    Related weaker forest other := by
  induction h with
  | nil => exact .nil
  | cons hlabel _ _ ihc ihs => exact .cons (himp _ _ hlabel) ihc ihs

/-- Joined forests resemble each other part by part. -/
theorem Related.append {r : α → β → Prop} {first later : Forest α} {first' later' : Forest β}
    (hfirst : Related r first first') (hlater : Related r later later') :
    Related r (first ++ later) (first' ++ later') := by
  induction hfirst with
  | nil => exact hlater
  | cons hlabel hbelow _ _ ihs => exact .cons hlabel hbelow ihs

/-- Relabelling the first of two forests composes with the relation. -/
theorem related_map_left {r : β → γ → Prop} {f : α → β} {forest : Forest α} {other : Forest γ} :
    Related r (forest.map f) other ↔ Related (fun a ↦ r (f a)) forest other := by
  induction forest generalizing other with
  | nil =>
    constructor
    all_goals
      intro h
      cases h
      exact .nil
  | cons label children siblings ihc ihs =>
    constructor
    · intro h
      cases h with
      | cons hlabel hbelow hsiblings => exact .cons hlabel (ihc.mp hbelow) (ihs.mp hsiblings)
    · intro h
      cases h with
      | cons hlabel hbelow hsiblings => exact .cons hlabel (ihc.mpr hbelow) (ihs.mpr hsiblings)

/-- A forest whose labels are functions of the other's is that forest relabelled. -/
theorem Related.eq_map {f : β → α} {forest : Forest α} {other : Forest β}
    (h : Related (fun a b ↦ a = f b) forest other) : forest = other.map f := by
  induction h with
  | nil => rfl
  | cons hlabel _ _ ihc ihs => rw [map, hlabel, ihc, ihs]

/-- The nodes in document order, each with the forest below it. -/
def subtrees : Forest α → List (α × Forest α)
  | .nil => []
  | .cons label children siblings =>
    (label, children) :: (children.subtrees ++ siblings.subtrees)

/-- The nodes of joined forests are those of the one and then those of the other. -/
@[simp]
theorem subtrees_append (first later : Forest α) :
    (first ++ later).subtrees = first.subtrees ++ later.subtrees := by
  induction first with
  | nil => rfl
  | cons label children siblings _ ihs =>
    simp only [cons_append, subtrees, ihs, List.cons_append, List.append_assoc]

/-- The labels of forests that resemble each other correspond in document order. -/
theorem Related.preorder {r : α → β → Prop} {forest : Forest α} {other : Forest β}
    (h : Related r forest other) : List.Forall₂ r forest.preorder other.preorder := by
  induction h with
  | nil => exact .nil
  | cons hlabel _ _ ihc ihs => exact .cons hlabel (List.rel_append ihc ihs)

/-- The nodes of forests that resemble each other correspond, with what is below them. -/
theorem Related.subtrees {r : α → β → Prop} {forest : Forest α} {other : Forest β}
    (h : Related r forest other) :
    List.Forall₂ (fun node node' ↦ r node.1 node'.1 ∧ Related r node.2 node'.2) forest.subtrees
      other.subtrees := by
  induction h with
  | nil => exact .nil
  | cons hlabel hbelow _ ihc ihs => exact .cons ⟨hlabel, hbelow⟩ (List.rel_append ihc ihs)

end Forest
end Colloquy
