/-!
# Readers

A reader takes a value off the front of a text and leaves the rest, or fails and takes nothing.
Choice tries its second reader on the text that the first one was given.
-/

namespace Colloquy.Text

/-- A reader of a value at the front of a text. -/
abbrev Reader (α : Type) := StateT (List Char) Option α

namespace Reader

variable {α : Type}

/-- Read the given characters. -/
def literal (expected : List Char) : Reader Unit := fun cs ↦
  if expected.isPrefixOf cs then some ((), cs.drop expected.length) else none

/-- Read one character that satisfies `p`. -/
def satisfy (p : Char → Bool) : Reader Char
  | [] => none
  | c :: cs => if p c then some (c, cs) else none

/-- Read the longest run of characters that satisfy `p`. -/
def takeWhile (p : Char → Bool) : Reader (List Char) := fun cs ↦
  some (cs.takeWhile p, cs.dropWhile p)

/-- Read the longest run of characters that satisfy `p`, which must not be empty. -/
def takeWhile1 (p : Char → Bool) : Reader (List Char) := do
  let run ← takeWhile p
  if run.isEmpty then failure
  return run

/-- Read exactly `count` characters that satisfy `p`. -/
def exactly (count : Nat) (p : Char → Bool) : Reader (List Char) := fun cs ↦
  let run := cs.take count
  if run.length = count ∧ run.all p then some (run, cs.drop count) else none

/-- What comes next, without reading it. -/
def peek : Reader (Option Char) := fun cs ↦ some (cs.head?, cs)

/-- Read a value if it is there. -/
def maybe (item : Reader α) : Reader (Option α) := fun cs ↦
  match item cs with
  | some (value, rest) => some (some value, rest)
  | none => some (none, cs)

/-- Read at most so many values, until none is there. -/
def manyWithin (item : Reader α) : Nat → Reader (List α)
  | 0, cs => some ([], cs)
  | bound + 1, cs =>
    match item cs with
    | none => some ([], cs)
    | some (value, rest) =>
      match manyWithin item bound rest with
      | none => none
      | some (values, rest) => some (value :: values, rest)

/-- Read values until none is there. Each is taken to be at least one character long, so there are
no more of them than characters. -/
def many (item : Reader α) : Reader (List α) := fun cs ↦ manyWithin item cs.length cs

/-- Read values that separators stand between. -/
def separated (item : Reader α) (separator : Reader Unit) : Reader (List α) := do
  match ← maybe item with
  | none => return []
  | some first => return first :: (← many (separator *> item))

/-- Read to the end of the text. -/
def run (reader : Reader α) (cs : List Char) : Option α :=
  match reader cs with
  | some (value, []) => some value
  | _ => none

end Reader
end Colloquy.Text
