/-!
# Named properties in order

Attributes and styles are lists of names with values, in the order in which the names were first
set. Setting a name again overwrites its value where it stands.
-/

namespace Colloquy

/-- Names with their values, in the order of first setting. -/
abbrev Properties := List (String × String)

namespace Properties

/-- Set a name to a value. -/
def set : Properties → String → String → Properties
  | [], name, value => [(name, value)]
  | entry :: rest, name, value =>
    if entry.1 = name then (name, value) :: rest else entry :: set rest name value

/-- The value of a name. -/
def get? (properties : Properties) (name : String) : Option String :=
  (properties.find? (·.1 = name)).map Prod.snd

/-- Reading after setting gives the new value for that name and the old one for any other. -/
theorem get?_set (properties : Properties) (name other value : String) :
    (properties.set name value).get? other =
      if other = name then some value else properties.get? other := by
  unfold get?
  induction properties with
  | nil => by_cases h : name = other <;> simp [set, h, eq_comm]
  | cons entry rest ih =>
    by_cases hk : entry.1 = name
    · by_cases ho : name = other <;> simp [set, hk, ho, eq_comm]
    · by_cases ho : entry.1 = other
      · have hn : other ≠ name := fun h ↦ hk (ho.trans h)
        simp [set, ho, hn]
      · simp [set, hk, ho, ih]

end Properties
end Colloquy
