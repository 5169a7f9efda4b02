import Colloquy.Text.Blank

/-!
# The block of a line

One line of markdown is one block: a heading, a rule, a fence, code by indentation, a paragraph,
or a quotation or a list item around another block.
-/

namespace Colloquy.Markdown

open Text

/-- The block that a line is. -/
inductive Block where
  | blank
  | paragraph (text : List Char)
  | heading (level : Nat) (text : List Char)
  | rule
  /-- An empty code block with the language it names. -/
  | fence (language : List Char)
  | code (text : List Char)
  | quote (inner : Block)
  | bullet (inner : Block)
  | ordered (start : Nat) (inner : Block)
  deriving DecidableEq, Repr

namespace Block

/-- A space or a tab. -/
def isSpace (c : Char) : Bool := c == ' ' || c == '\t'

/-- Remove white space at both ends. -/
def stripped (cs : List Char) : List Char := (dropEndWhile isSpace cs).dropWhile isSpace

/-- A rule: three or more of one mark, with nothing but spaces between them. -/
def rule? (cs : List Char) : Option Block :=
  let marks := cs.filter (!isSpace ·)
  match marks with
  | mark :: _ =>
    if (mark == '*' || mark == '-' || mark == '_') && 3 ≤ marks.length && marks.all (· == mark) then
      some .rule
    else none
  | [] => none

/-- The text of a heading without a closing row of number signs. -/
def headingText (cs : List Char) : List Char :=
  let text := stripped cs
  let kept := dropEndWhile (· == '#') text
  if kept.isEmpty ∨ kept.getLast?.any isSpace then stripped kept else text

/-- A heading: one to six number signs and a space. -/
def heading? (cs : List Char) : Option Block :=
  let level := (cs.takeWhile (· == '#')).length
  let rest := cs.drop level
  if 1 ≤ level ∧ level ≤ 6 ∧ rest.head?.all isSpace then some (.heading level (headingText rest))
  else none

/-- A fence: three or more backticks or tildes. There is no backtick after backticks. -/
def fence? (cs : List Char) : Option Block :=
  match cs with
  | mark :: _ =>
    let length := (cs.takeWhile (· == mark)).length
    let info := stripped (cs.drop length)
    if (mark == '`' || mark == '~') && 3 ≤ length && !(mark == '`' && info.contains '`') then
      some (.fence (info.takeWhile (!isSpace ·)))
    else none
  | [] => none

/-- What follows the marker of a list item: the text after a space, or nothing. -/
def itemContent? (cs : List Char) : Option (List Char) :=
  match cs with
  | [] => some []
  | c :: rest =>
    if !isSpace c then none
    else if (cs.takeWhile isSpace).length ≤ 4 then some (cs.dropWhile isSpace)
    else some rest

/-- The content of a bulleted item. -/
def bullet? : List Char → Option (List Char)
  | mark :: rest => if mark == '-' || mark == '+' || mark == '*' then itemContent? rest else none
  | [] => none

/-- The number and the content of a numbered item. -/
def ordered? (cs : List Char) : Option (Nat × List Char) :=
  let digits := cs.takeWhile Char.isDigit
  match cs.drop digits.length with
  | mark :: rest =>
    if !digits.isEmpty && digits.length ≤ 9 && (mark == '.' || mark == ')') then
      (itemContent? rest).map fun content ↦
        (digits.foldl (fun n c ↦ n * 10 + (c.toNat - 48)) 0, content)
    else none
  | [] => none

/-- The content of a quotation. -/
def quote? : List Char → Option (List Char)
  | '>' :: ' ' :: rest => some rest
  | '>' :: rest => some rest
  | _ => none

/-- The block of a line. Each container takes a character, so the length bounds their nesting. -/
def ofCharsWithin : Nat → List Char → Block
  | 0, _ => .blank
  | fuel + 1, line =>
    let indentation := line.takeWhile (· == ' ')
    let cs := line.dropWhile (· == ' ')
    if cs.all isSpace then .blank
    else if 4 ≤ indentation.length then .code (line.drop 4)
    else if cs.head? = some '\t' then .code cs.tail
    else
      match quote? cs with
      | some inner => .quote (ofCharsWithin fuel inner)
      | none =>
        match rule? cs with
        | some block => block
        | none =>
          match bullet? cs with
          | some inner => .bullet (ofCharsWithin fuel inner)
          | none =>
            match ordered? cs with
            | some (start, inner) => .ordered start (ofCharsWithin fuel inner)
            | none => ((heading? cs <|> fence? cs)).getD (.paragraph (stripped cs))

/-- The block of a line. -/
def ofChars (line : List Char) : Block := ofCharsWithin (line.length + 1) line

end Block
end Colloquy.Markdown
