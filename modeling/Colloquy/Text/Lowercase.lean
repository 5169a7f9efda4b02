import Colloquy.Text.Cased
import Colloquy.Text.LowercaseTable

/-!
# Lower case

The lower-case form of a text is taken character by character. Two characters need more than the
table of runs: the capital I with a dot becomes a small i and a combining dot, and a capital sigma
becomes the final small sigma where it ends a word.
-/

namespace Colloquy.Text

/-- The lower-case form of a character by itself. -/
def lowerChar (c : Char) : List Char :=
  if c = '\u0130' then ['i', '\u0307']
  else
    match caseRuns.findSome? (·.lower? c.toNat) with
    | some code => [Char.ofNat code]
    | none => [c]

/-- Whether a cased character comes first once case-ignorable ones are looked through. -/
def meetsCased (cs : List Char) : Bool :=
  match cs.dropWhile isCaseIgnorable with
  | [] => false
  | c :: _ => isCased c

/-- The lower-case form of a text that follows the characters `before`, nearest first. A capital
sigma ends a word when a cased character comes before it and none after it. -/
def lowercaseAfter (before : List Char) : List Char → List Char
  | [] => []
  | c :: cs =>
    let lower :=
      if c = 'Σ' then [if meetsCased before && !meetsCased cs then 'ς' else 'σ'] else lowerChar c
    lower ++ lowercaseAfter (c :: before) cs

/-- The lower-case form of a text. -/
def lowercase (cs : List Char) : List Char := lowercaseAfter [] cs

/-- Every ASCII letter has the lower-case form that ASCII gives it. -/
theorem lowerChar_of_lt {c : Char} (h : c.toNat < 128) : lowerChar c = [c.toLower] := by
  have key : ∀ n : Fin 128, lowerChar (Char.ofNat n) = [(Char.ofNat n).toLower] := by
    decide +kernel
  have := key ⟨c.toNat, h⟩
  simpa using this

end Colloquy.Text
