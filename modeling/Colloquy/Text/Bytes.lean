/-!
# Byte positions in text

Positions in a source are counted in bytes of its UTF-8 form. A position inside a character
marks no place between characters, so cutting there fails.
-/

namespace Colloquy

/-- A range of byte positions, `stop` excluded. -/
structure Span where
  start : Nat
  stop : Nat
  deriving DecidableEq, Repr

namespace Span

/-- Move both ends of the span to the right. -/
def shift (span : Span) (distance : Nat) : Span :=
  ⟨span.start + distance, span.stop + distance⟩

end Span

namespace Text

/-- The number of bytes in the UTF-8 form of the characters. -/
def byteLength : List Char → Nat
  | [] => 0
  | c :: cs => c.utf8Size + byteLength cs

/-- The characters that fill exactly the first `count` bytes, or nothing when the position
`count` is beyond the end or inside a character. -/
def takeBytes? : List Char → Nat → Option (List Char)
  | _, 0 => some []
  | [], _ + 1 => none
  | c :: cs, count + 1 =>
    if c.utf8Size ≤ count + 1 then (takeBytes? cs (count + 1 - c.utf8Size)).map (c :: ·) else none

/-- The byte length of a concatenation is the sum of the byte lengths. -/
@[simp]
theorem byteLength_append (xs ys : List Char) :
    byteLength (xs ++ ys) = byteLength xs + byteLength ys := by
  induction xs with
  | nil => simp [byteLength]
  | cons c cs ih => simp [byteLength, ih, Nat.add_assoc]

/-- Cutting where a leading part ends gives back that part. -/
theorem takeBytes?_append (xs ys : List Char) :
    takeBytes? (xs ++ ys) (byteLength xs) = some xs := by
  induction xs with
  | nil => simp [byteLength, takeBytes?]
  | cons c cs ih =>
    have hc : 0 < c.utf8Size := Char.utf8Size_pos c
    obtain ⟨n, hn⟩ : ∃ n, byteLength (c :: cs) = n + 1 :=
      ⟨byteLength (c :: cs) - 1, by simp only [byteLength]; omega⟩
    have hlen : n + 1 - c.utf8Size = byteLength cs := by
      rw [← hn]; simp only [byteLength]; omega
    have hle : c.utf8Size ≤ n + 1 := by rw [← hn]; simp only [byteLength]; omega
    rw [hn, List.cons_append, takeBytes?, if_pos hle, hlen, ih]
    rfl

end Text
end Colloquy
