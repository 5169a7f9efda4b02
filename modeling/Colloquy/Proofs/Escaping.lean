import Colloquy.Html.Escape
import Colloquy.Proofs.Quotation

/-!
# Reading escaped texts

An escaped text says where it ends, whatever it holds. No character is written with an angle bracket
in it, and none of an attribute value with a quote; so running text ends at the first angle bracket
and an attribute value at the first quote. Every character before that is read back from the way it
is written.
-/

namespace Colloquy.Html

open Text

/-- The character is an angle bracket. -/
def IsBracket (c : Char) : Prop := c = '<' ∨ c = '>'

instance (c : Char) : Decidable (IsBracket c) := inferInstanceAs (Decidable (c = '<' ∨ c = '>'))

/-! ### Characters -/

/-- The first character of an escaped text, and what follows it. -/
def readChar? : List Char → Option (Char × List Char)
  | '&' :: 'a' :: 'm' :: 'p' :: ';' :: rest => some ('&', rest)
  | '&' :: 'l' :: 't' :: ';' :: rest => some ('<', rest)
  | '&' :: 'g' :: 't' :: ';' :: rest => some ('>', rest)
  | '&' :: 'q' :: 'u' :: 'o' :: 't' :: ';' :: rest => some ('"', rest)
  | c :: rest => some (c, rest)
  | [] => none

end Colloquy.Html
