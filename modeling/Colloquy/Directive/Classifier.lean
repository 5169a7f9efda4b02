import Colloquy.Directive.Basic
import Colloquy.Text.Blank
import Colloquy.Text.Lowercase

/-!
# Classification of lines

A line is read by its shape. The shapes are tried in a fixed order and the first that fits wins;
a line of no shape is an `unparsed` directive, so classification never fails.

Keywords may be written in any mixture of ASCII cases. Titles and default footers stay on one
line, so a line feed after their colon spoils the shape; a setting's value may hold one.
-/

namespace Colloquy.Directive

open Text

/-- What follows a keyword that is written in any mixture of ASCII cases. -/
def stripKeyword? : List Char → List Char → Option (List Char)
  | [], rest => some rest
  | _ :: _, [] => none
  | k :: ks, c :: cs => if c.toLower = k.toLower then stripKeyword? ks cs else none

/-- What follows a colon. -/
def stripColon? : List Char → Option (List Char)
  | ':' :: rest => some rest
  | _ => none

/-- What follows a colon, when no line feed is in it. -/
def stripColonOnLine? (cs : List Char) : Option (List Char) :=
  (stripColon? cs).filter fun rest ↦ !rest.contains '\n'

/-- Split an identity, a hyphen and one or more ASCII digits, from what follows it. -/
def splitIdentity? : List Char → Option (List Char × List Char)
  | '-' :: rest =>
    let digits := rest.takeWhile Char.isDigit
    if digits.isEmpty then none else some (digits, rest.dropWhile Char.isDigit)
  | _ => none

/-- The words that open a title line, each with its side. -/
def titleKeywords : List (String × Side) :=
  [("l", .left), ("left", .left), ("r", .right), ("right", .right), ("c", .center),
    ("center", .center)]

/-- The words that open a default footer line, each with its side. -/
def footerKeywords : List (String × Side) :=
  [("lf", .left), ("leftFooter", .left), ("rf", .right), ("rightFooter", .right),
    ("cf", .center), ("centerFooter", .center)]

/-- A trimmed payload as text. -/
def trimmed (cs : List Char) : String := String.ofList (trim cs)

/-- A title line of one keyword. -/
def titleOf? (keyword : String) (side : Side) (line : List Char) : Option Directive := do
  let rest ← stripKeyword? keyword.toList line
  match splitIdentity? rest with
  | some (digits, rest) =>
    let text ← stripColonOnLine? rest
    return .title side (trimmed text) (some (String.ofList digits))
  | none =>
    let text ← stripColonOnLine? rest
    return .title side (trimmed text) none

/-- A default footer line of one keyword. -/
def footerDefaultOf? (keyword : String) (side : Side) (line : List Char) : Option Directive := do
  let rest ← stripKeyword? keyword.toList line
  let text ← stripColonOnLine? rest
  return .footerDefault side (trimmed text)

/-- The value of a setting as it is kept: trimmed, and in lower case unless it is a width. -/
def settingValue (setting : Setting) (cs : List Char) : String :=
  String.ofList (if setting.lowercasesValue then lowercase (trim cs) else trim cs)

/-- A line of one setting. -/
def settingOf? (setting : Setting) (line : List Char) : Option Directive := do
  let rest ← stripKeyword? setting.keyword.toList line
  let value ← stripColon? rest
  return .setting setting (settingValue setting value)

/-- Title lines: `left: Alice`, `r-2: Bob`, `c: Narrator`. -/
def title? (line : List Char) : Option Directive :=
  titleKeywords.findSome? fun entry ↦ titleOf? entry.1 entry.2 line

/-- Default footer lines: `lf: sent`, `rightFooter: read`. -/
def footerDefault? (line : List Char) : Option Directive :=
  footerKeywords.findSome? fun entry ↦ footerDefaultOf? entry.1 entry.2 line

/-- Setting lines: `titleMode: all`. -/
def setting? (line : List Char) : Option Directive :=
  Setting.all.findSome? (settingOf? · line)

/-- Delimiter lines: `-` or `delimiter`. -/
def delimiter? (line : List Char) : Option Directive :=
  if line = ['-'] ∨ line = "delimiter".toList then some .delimiter else none

/-- Comment lines: `#text`. The text is kept as it is. -/
def comment? : List Char → Option Directive
  | '#' :: rest => some (.comment (String.ofList rest))
  | _ => none

/-- Message lines: `<text`, `>text`, `=text`. -/
def message? : List Char → Option Directive
  | [] => none
  | c :: rest => (Side.ofOperator? c).map (.message · (trimmed rest))

/-- Footer attachment lines: `::text`. The text is kept as it is. -/
def footerAttachment? : List Char → Option Directive
  | ':' :: ':' :: rest => some (.footerAttachment (String.ofList rest))
  | _ => none

/-- The directive that a line stands for. -/
def classify (line : String) : Directive :=
  let cs := line.toList
  ((title? cs <|> footerDefault? cs <|> setting? cs <|> delimiter? cs <|> comment? cs <|>
    message? cs <|> footerAttachment? cs)).getD (.unparsed line)

end Colloquy.Directive
