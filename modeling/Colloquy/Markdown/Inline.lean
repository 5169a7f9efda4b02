import Colloquy.Markdown.Run
import Colloquy.Text.Reader

/-!
# Running text

Running text is read from left to right. Code spans, links in angle brackets, backslash escapes
and character references bind first. Brackets are kept on a stack: a closing bracket that is
followed by a destination makes a link or an image of what lies since the opening one, and every
other bracket is plain text. Links do not nest. HTML tags, links by reference and mail addresses in
angle brackets are no markup here: they are plain text.
-/

namespace Colloquy.Markdown

open Text Text.Reader

/-- Whether the character is an ASCII punctuation mark. -/
def isAsciiPunctuation (c : Char) : Bool :=
  let n := c.toNat
  (0x21 ≤ n && n ≤ 0x2F) || (0x3A ≤ n && n ≤ 0x40) || (0x5B ≤ n && n ≤ 0x60) ||
    (0x7B ≤ n && n ≤ 0x7E)

/-- The named character references that are known. -/
def namedReferences : List (String × Char) :=
  [("amp", '&'), ("lt", '<'), ("gt", '>'), ("quot", '"'), ("apos", '\''), ("nbsp", '\u00A0'),
    ("copy", '©'), ("reg", '®'), ("hellip", '…'), ("mdash", '—'), ("ndash", '–')]

/-- The character of a code point; zero and what is no character become the replacement. -/
def referencedChar (code : Nat) : Char :=
  if code = 0 ∨ ¬ code.isValidChar then '\uFFFD' else Char.ofNat code

/-- Read a character reference after its ampersand. -/
def reference : Reader Char :=
  (do
    literal ['#']
    let digits ← takeWhile1 Char.isDigit
    literal [';']
    if 7 < digits.length then failure
    return referencedChar (digits.foldl (fun n c ↦ n * 10 + (c.toNat - 48)) 0)) <|>
  (do
    literal ['#']
    let _ ← satisfy fun c ↦ c == 'x' || c == 'X'
    let digits ← takeWhile1 fun c ↦ c.isDigit || ('a' ≤ c.toLower && c.toLower ≤ 'f')
    literal [';']
    if 6 < digits.length then failure
    let value (c : Char) : Nat := if c.isDigit then c.toNat - 48 else c.toLower.toNat - 87
    return referencedChar (digits.foldl (fun n c ↦ n * 16 + value c) 0)) <|>
  (do
    let name ← takeWhile1 Char.isAlphanum
    literal [';']
    liftM (namedReferences.lookup (String.ofList name)))

/-- Read a character that is escaped by a backslash, or given by a reference. -/
def escaped : Reader Char :=
  (literal ['\\'] *> satisfy isAsciiPunctuation) <|> (literal ['&'] *> reference)

/-- Read a destination in angle brackets. -/
def angledDestination : Reader (List Char) := do
  literal ['<']
  let text ← many (escaped <|> satisfy fun c ↦ c != '<' && c != '>' && c != '\n')
  literal ['>']
  return text

/-- Read a bare destination: no white space, and parentheses in pairs. Depth counts the
parentheses that are open. -/
def bareDestination : Nat → Nat → Reader (List Char)
  | 0, _ => return []
  | fuel + 1, depth => do
    match ← maybe escaped with
    | some c => return c :: (← bareDestination fuel depth)
    | none =>
      match ← peek with
      | none => return []
      | some c =>
        if isBlank c || c.toNat < 0x20 || c.toNat == 0x7F then return []
        else if c == ')' && depth == 0 then return []
        else
          let _ ← satisfy fun _ ↦ true
          let depth := if c == '(' then depth + 1 else if c == ')' then depth - 1 else depth
          return c :: (← bareDestination fuel depth)

/-- Read a destination. -/
def destination : Reader (List Char) := do
  match ← peek with
  | some '<' => angledDestination
  | _ => fun cs ↦ bareDestination cs.length 0 cs

/-- Read a title between two quotes. -/
def titleBetween (opening closing : Char) : Reader (List Char) := do
  literal [opening]
  let text ← many (escaped <|> satisfy fun c ↦ c != opening && c != closing)
  literal [closing]
  return text

/-- Read what follows the closing bracket of a link: the destination and the title. -/
def linkTarget : Reader (List Char × List Char) := do
  literal ['(']
  let _ ← takeWhile isBlank
  let target ← destination
  let space ← takeWhile isBlank
  let title ←
    if space.isEmpty then pure none
    else maybe (titleBetween '"' '"' <|> titleBetween '\'' '\'' <|> titleBetween '(' ')')
  let _ ← takeWhile isBlank
  literal [')']
  return (target, title.getD [])

/-- Read a link in angle brackets. -/
def autolink : Reader (List Char) := do
  literal ['<']
  let scheme ← takeWhile1 fun c ↦ c.isAlphanum || c == '+' || c == '.' || c == '-'
  literal [':']
  let rest ← takeWhile fun c ↦ 0x20 < c.toNat && c.toNat != 0x7F && c != '<' && c != '>'
  literal ['>']
  if scheme.length < 2 ∨ 32 < scheme.length ∨ !(scheme.head?.any Char.isAlpha) then failure
  return scheme ++ ':' :: rest

/-- The code that ends at the next run of `count` backticks. -/
def codeUntil (count : Nat) : Nat → Reader (List Char)
  | 0 => failure
  | fuel + 1 => do
    let before ← takeWhile (· != '`')
    let ticks ← takeWhile1 (· == '`')
    if ticks.length = count then return before
    else return before ++ ticks ++ (← codeUntil count fuel)

/-- Read a code span. One space at each end is dropped unless there is nothing else. -/
def codeSpan : Reader (List Char) := do
  let ticks ← takeWhile1 (· == '`')
  let code ← fun cs ↦ codeUntil ticks.length (cs.length + 1) cs
  if code.head? = some ' ' ∧ code.getLast? = some ' ' ∧ code.any (· != ' ') then
    return code.tail.dropLast
  return code

/-- An opening bracket and the pieces since, the nearest first. -/
structure Bracket where
  image : Bool
  /-- Whether a link may still be made of it. -/
  active : Bool
  pieces : List Piece

/-- How far running text has been read: the open brackets, the innermost first, and the pieces
outside of all brackets, the nearest first. -/
structure Reading where
  brackets : List Bracket
  pieces : List Piece

namespace Bracket

/-- The opening bracket as text. -/
def opening (bracket : Bracket) : Piece := .ofText (if bracket.image then ['!', '['] else ['['])

end Bracket

namespace Reading

/-- Add pieces, the nearest first. -/
def push (reading : Reading) (pieces : List Piece) : Reading :=
  match reading.brackets with
  | [] => { reading with pieces := pieces ++ reading.pieces }
  | bracket :: outer =>
    { reading with brackets := { bracket with pieces := pieces ++ bracket.pieces } :: outer }

/-- Add a node. -/
def pushNode (reading : Reading) (label : Inline) (content : Inlines) : Reading :=
  reading.push [.node (.cons label content .nil)]

/-- Open a bracket. -/
def openBracket (reading : Reading) (image : Bool) : Reading :=
  { reading with brackets := ⟨image, true, []⟩ :: reading.brackets }

/-- Give the innermost bracket up as text. -/
def dropBracket (reading : Reading) : Reading :=
  match reading.brackets with
  | [] => reading
  | bracket :: outer =>
    { reading with brackets := outer }.push (bracket.pieces ++ [bracket.opening])

/-- Close the innermost bracket as a link or an image. No link can be made around a link. -/
def closeBracket (reading : Reading) (bracket : Bracket) (outer : List Bracket)
    (target title : List Char) : Reading :=
  let content := resolveRuns bracket.pieces.reverse
  if bracket.image then { reading with brackets := outer }.pushNode (.image target title) content
  else
    let outer := outer.map fun b ↦ if b.image then b else { b with active := false }
    { reading with brackets := outer }.pushNode (.link target title) content

/-- All pieces, with the brackets that are still open as text. -/
def finish (reading : Reading) : Inlines :=
  let closed := reading.brackets.foldl (fun reading _ ↦ reading.dropBracket) reading
  resolveRuns closed.pieces.reverse

end Reading

/-- Read one step of running text after the character `before`: a span, a bracket, a run or a
character. -/
def readStep (before : Option Char) (reading : Reading) : Reader Reading :=
  (do return reading.push [.ofText [← escaped]]) <|>
  (do return reading.pushNode (.code (← codeSpan)) .nil) <|>
  (do return reading.push [.ofText (← takeWhile1 (· == '`'))]) <|>
  (do
    let target ← autolink
    return reading.pushNode (.link target []) (.cons (.text target) .nil .nil)) <|>
  (do
    literal ['!', '[']
    return reading.openBracket true) <|>
  (do
    literal ['[']
    return reading.openBracket false) <|>
  (do
    literal [']']
    match reading.brackets with
    | [] => return reading.push [.ofText [']']]
    | bracket :: outer =>
      match ← if bracket.active then maybe linkTarget else pure none with
      | some (target, title) => return reading.closeBracket bracket outer target title
      | none => return reading.dropBracket.push [.ofText [']']]) <|>
  (do
    let mark ← satisfy fun c ↦ c == '*' || c == '_' || c == '~'
    let more ← takeWhile (· == mark)
    return reading.push [.run (.between mark (more.length + 1) before (← peek))]) <|>
  (do return reading.push [.ofText [← satisfy fun _ ↦ true]])

/-- Read running text to its end. Every step takes a character at least. -/
def readAll : Nat → Option Char → Reading → List Char → Reading
  | 0, _, reading, _ => reading
  | fuel + 1, before, reading, cs =>
    match readStep before reading cs with
    | none => reading
    | some (reading, rest) =>
      readAll fuel (cs.take (cs.length - rest.length)).getLast? reading rest

/-- The markup of running text. -/
def inlines (cs : List Char) : Inlines := (readAll cs.length none ⟨[], []⟩ cs).finish

end Colloquy.Markdown
