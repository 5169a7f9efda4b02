/-!
# Searching in text
-/

namespace Colloquy.Text

/-- Whether a text contains another as an unbroken part. -/
def containsChars (part : List Char) : List Char → Bool
  | [] => part.isEmpty
  | c :: cs => part.isPrefixOf (c :: cs) || containsChars part cs

/-- Whether a text contains another as an unbroken part. -/
def contains (text part : String) : Bool := containsChars part.toList text.toList

/-- Containing a part is having it somewhere between two ends. -/
theorem containsChars_iff {part text : List Char} :
    containsChars part text = true ↔ part <:+: text := by
  induction text with
  | nil => simp [containsChars]
  | cons c cs ih => simp [containsChars, ih, List.infix_cons_iff]

end Colloquy.Text
