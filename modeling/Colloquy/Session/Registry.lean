/-!
# The participant registry

A registry numbers titles in the order in which messages first carry them, from one. The empty
title is never registered. The titles are kept twice, as a list in their order and as a table in
which the number of a title is looked up, and only registering a title writes to either.
-/

namespace Colloquy

/-- The registered titles with their numbers. -/
structure Registry where
  /-- The titles, in the order of their ordinals. -/
  titles : List String
  /-- The ordinal of each title, the newest first. -/
  ordinals : List (String × Nat)
  deriving DecidableEq, Repr

namespace Registry

/-- No title registered. -/
def empty : Registry := ⟨[], []⟩

/-- The number of titles. -/
def size (registry : Registry) : Nat := registry.titles.length

/-- Whether no title is registered. -/
def isEmpty (registry : Registry) : Bool := registry.titles.isEmpty

/-- The ordinal of a registered title. -/
def ordinal? (registry : Registry) (title : String) : Option Nat := registry.ordinals.lookup title

/-- Register a title. A title that has an ordinal already keeps it; any other goes to the end of the
list, and its ordinal is the length of the list from then on. -/
def register (registry : Registry) (title : String) : Registry :=
  if title = "" ∨ (registry.ordinal? title).isSome then registry
  else
    let titles := registry.titles ++ [title]
    ⟨titles, (title, titles.length) :: registry.ordinals⟩

/-- The titles with their ordinals. -/
def entries (registry : Registry) : List (String × Nat) :=
  registry.titles.filterMap fun title ↦ (registry.ordinal? title).map (title, ·)

/-- Registering keeps the titles that are there and their order. -/
theorem titles_prefix_register (registry : Registry) (title : String) :
    registry.titles <+: (registry.register title).titles := by
  unfold register
  split
  · exact List.prefix_refl _
  · exact List.prefix_append _ _

end Registry
end Colloquy
