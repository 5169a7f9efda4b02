import Colloquy.Text.Reader

/-!
# The text level of TOML

Blanks, line breaks, comments, strings and keys. Control characters other than the tab are not
allowed anywhere, and a carriage return only before a line feed; a line break inside a string is
read as a line feed either way.
-/

namespace Colloquy.Toml

open Text Text.Reader

/-- A space or a tab. -/
def isBlank (c : Char) : Bool := c == ' ' || c == '\t'

/-- A character that may stand in a comment or a string. -/
def isPlain (c : Char) : Bool := c == '\t' || (0x20 ≤ c.toNat && c.toNat != 0x7F)

/-- Skip blanks. -/
def blanks : Reader Unit := do
  let _ ← takeWhile isBlank

/-- Read a line break. -/
def lineBreak : Reader Unit := literal ['\n'] <|> literal ['\r', '\n']

/-- Read the end of a line: a line break or the end of the text. -/
def endOfLine : Reader Unit := do
  match ← peek with
  | none => return ()
  | some _ => lineBreak

/-- Read a comment, up to the end of its line. -/
def comment : Reader Unit := do
  literal ['#']
  let _ ← takeWhile isPlain

/-- Skip blanks and a comment, up to and including the end of the line. -/
def restOfLine : Reader Unit := do
  blanks
  let _ ← maybe comment
  endOfLine

/-- Skip blanks, comments and line breaks. -/
def filler : Reader Unit := do
  blanks
  let _ ← many do
    let _ ← maybe comment
    lineBreak
    blanks

/-- Whether the character is a hexadecimal digit. -/
def isHexDigit (c : Char) : Bool :=
  c.isDigit || ('a' ≤ c && c ≤ 'f') || ('A' ≤ c && c ≤ 'F')

/-- The value of a hexadecimal digit. -/
def hexValue (c : Char) : Nat :=
  if c.isDigit then c.toNat - 48 else c.toLower.toNat - 87

/-- The number that digits of a base write. -/
def numberOf (base : Nat) (digits : List Char) : Nat :=
  digits.foldl (fun value c ↦ value * base + hexValue c) 0

/-- Read a character given by a number of hexadecimal digits. -/
def codePoint (count : Nat) : Reader Char := do
  let code := numberOf 16 (← exactly count isHexDigit)
  if code < 0xD800 || (0xDFFF < code && code < 0x110000) then return Char.ofNat code
  else failure

/-- Read what follows a backslash. -/
def escape : Reader Char := do
  match ← satisfy fun _ ↦ true with
  | 'b' => return '\x08'
  | 't' => return '\t'
  | 'n' => return '\n'
  | 'f' => return '\x0c'
  | 'r' => return '\r'
  | '"' => return '"'
  | '\\' => return '\\'
  | 'u' => codePoint 4
  | 'U' => codePoint 8
  | _ => failure

/-- Read a character of a string in double quotes. -/
def basicChar : Reader Char := do
  let c ← satisfy fun c ↦ isPlain c && c != '"'
  if c == '\\' then escape else return c

/-- Read a string in double quotes. -/
def basicString : Reader (List Char) := do
  literal ['"']
  let text ← many basicChar
  literal ['"']
  return text

/-- Read a string in single quotes. -/
def literalString : Reader (List Char) := do
  literal ['\'']
  let text ← takeWhile fun c ↦ isPlain c && c != '\''
  literal ['\'']
  return text

/-- Read one or two quotes that do not belong to a closing delimiter. -/
def innerQuotes (quote : Char) : Reader (List Char) := do
  let run ← takeWhile1 (· == quote)
  if run.length ≤ 2 then return run else failure

/-- Read a closing delimiter of three quotes and the one or two quotes right before it. -/
def closingQuotes (quote : Char) : Reader (List Char) := do
  let run ← takeWhile1 (· == quote)
  if 3 ≤ run.length ∧ run.length ≤ 5 then return run.drop 3 else failure

/-- Read a line break inside a string. -/
def innerBreak : Reader (List Char) := do
  lineBreak
  return ['\n']

/-- Skip a backslash at the end of a line and the blanks and line breaks after it. -/
def joinedLines : Reader (List Char) := do
  literal ['\\']
  blanks
  lineBreak
  let _ ← many ((do let _ ← satisfy isBlank) <|> lineBreak)
  return []

/-- Read a string of several lines: an opening delimiter, which may end its line, the parts, and a
closing delimiter. -/
def multiline (quote : Char) (part : Reader (List Char)) : Reader (List Char) := do
  literal [quote, quote, quote]
  let _ ← maybe lineBreak
  let parts ← many (part <|> innerQuotes quote)
  let last ← closingQuotes quote
  return parts.flatten ++ last

/-- Read a string of several lines in double quotes. -/
def multilineBasic : Reader (List Char) :=
  multiline '"' (joinedLines <|> innerBreak <|> (do return [← basicChar]))

/-- Read a string of several lines in single quotes. -/
def multilineLiteral : Reader (List Char) :=
  multiline '\'' (innerBreak <|> takeWhile1 fun c ↦ isPlain c && c != '\'')

/-- Read a string of any kind. -/
def string : Reader (List Char) :=
  multilineBasic <|> basicString <|> multilineLiteral <|> literalString

/-- A character of a bare key. -/
def isBareKey (c : Char) : Bool := c.isAlphanum || c == '_' || c == '-'

/-- Read one part of a key. -/
def keyPart : Reader String := do
  blanks
  let part ← basicString <|> literalString <|> takeWhile1 isBareKey
  blanks
  return String.ofList part

/-- Keys of this many parts are refused. -/
def maxKeyParts : Nat := 80

/-- Read a dotted key: the parts before the last, and the last. -/
def key : Reader (List String × String) := do
  let parts ← separated keyPart (literal ['.'])
  if maxKeyParts ≤ parts.length then failure
  match parts.getLast? with
  | some last => return (parts.dropLast, last)
  | none => failure

end Colloquy.Toml
