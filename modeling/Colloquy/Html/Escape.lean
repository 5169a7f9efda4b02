/-!
# Escaping for HTML

Three characters have a meaning in running text and are written as references; a double quote is
written as one inside an attribute value too.
-/

namespace Colloquy.Html

/-- A character of running text, as it is written. -/
def escapeTextChar : Char → List Char
  | '&' => "&amp;".toList
  | '<' => "&lt;".toList
  | '>' => "&gt;".toList
  | c => [c]

/-- A character of an attribute value, as it is written between double quotes. -/
def escapeAttributeChar : Char → List Char
  | '"' => "&quot;".toList
  | c => escapeTextChar c

/-- Running text, as it is written. -/
def escapeText (text : String) : String := String.ofList (text.toList.flatMap escapeTextChar)

/-- An attribute value, as it is written between double quotes. -/
def escapeAttribute (value : String) : String :=
  String.ofList (value.toList.flatMap escapeAttributeChar)

end Colloquy.Html
