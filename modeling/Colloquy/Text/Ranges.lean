/-!
# Tables of code points

A character property is kept as a list of closed intervals of code points.
-/

namespace Colloquy.Text

/-- Intervals of code points, first and last included. -/
abbrev RangeTable := List (Nat × Nat)

namespace RangeTable

/-- Whether some interval of the table holds the character. -/
def contains (table : RangeTable) (c : Char) : Bool :=
  table.any fun range ↦ decide (range.1 ≤ c.toNat) && decide (c.toNat ≤ range.2)

/-- A table contains a character exactly when one of its intervals does. -/
theorem contains_iff {table : RangeTable} {c : Char} :
    table.contains c = true ↔ ∃ range ∈ table, range.1 ≤ c.toNat ∧ c.toNat ≤ range.2 := by
  simp [contains]

end RangeTable
end Colloquy.Text
