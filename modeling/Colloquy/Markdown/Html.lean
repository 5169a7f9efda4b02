import Colloquy.Html.Escape
import Colloquy.Markdown.Block
import Colloquy.Markdown.Inline

/-!
# The HTML of a line of markdown

Every block starts on a line of its own. A paragraph that is all there is in a list item has no
tags around it. White space at the end of the whole is dropped.
-/

namespace Colloquy.Markdown

open Html

/-- Whether a character may stand in a link as it is. -/
def isLinkSafe (c : Char) : Bool :=
  c.isAlphanum || "!#$%()*+,-./:;=?@_~".toList.contains c

/-- The hexadecimal digits of a byte. -/
def byteHex (byte : UInt8) : List Char :=
  let digit (n : Nat) : Char := if n < 10 then Char.ofNat (48 + n) else Char.ofNat (55 + n)
  [digit (byte.toNat / 16), digit (byte.toNat % 16)]

/-- A character of a link, as it is written in an attribute. -/
def escapeLinkChar (c : Char) : List Char :=
  if isLinkSafe c then [c]
  else if c = '&' then "&amp;".toList
  else if c = '\'' then "&#x27;".toList
  else (String.ofList [c]).toUTF8.toList.flatMap fun byte ↦ '%' :: byteHex byte

/-- A title as an attribute, if there is one. -/
def titleAttribute (title : List Char) : List Char :=
  if title.isEmpty then []
  else " title=\"".toList ++ title.flatMap escapeAttributeChar ++ ['"']

/-- Running text without its markup, as it stands in an attribute. -/
def plainText : Inlines → List Char
  | .nil => []
  | .cons (.text chars) _ rest | .cons (.code chars) _ rest =>
    chars.flatMap escapeAttributeChar ++ plainText rest
  | .cons _ content rest => plainText content ++ plainText rest

/-- Running text as HTML. -/
def inlineHtml : Inlines → List Char
  | .nil => []
  | .cons label content rest =>
    let inner := inlineHtml content
    let this :=
      match label with
      | .text chars => chars.flatMap escapeTextChar
      | .code chars => "<code>".toList ++ chars.flatMap escapeTextChar ++ "</code>".toList
      | .emphasis => "<em>".toList ++ inner ++ "</em>".toList
      | .strong => "<strong>".toList ++ inner ++ "</strong>".toList
      | .deletion => "<del>".toList ++ inner ++ "</del>".toList
      | .link target title =>
        "<a href=\"".toList ++ target.flatMap escapeLinkChar ++ ['"'] ++ titleAttribute title ++
          ['>'] ++ inner ++ "</a>".toList
      | .image target title =>
        "<img src=\"".toList ++ target.flatMap escapeLinkChar ++ "\" alt=\"".toList ++
          plainText content ++ ['"'] ++ titleAttribute title ++ " />".toList
    this ++ inlineHtml rest

/-- Begin a line of its own after what is written so far. -/
def freshLine (written : List Char) : List Char :=
  if written.isEmpty ∨ written.getLast? = some '\n' then written else written ++ ['\n']

/-- Write a block after what is written so far; `tight` says whether it is the block of a list
item. -/
def writeBlock (written : List Char) (tight : Bool) : Block → List Char
  | .blank => written
  | .paragraph text =>
    let html := inlineHtml (inlines text)
    if tight then written ++ html
    else freshLine written ++ "<p>".toList ++ html ++ "</p>\n".toList
  | .heading level text =>
    let tag := 'h' :: (toString level).toList
    freshLine written ++ '<' :: tag ++ ['>'] ++ inlineHtml (inlines text) ++ "</".toList ++ tag ++
      ">\n".toList
  | .rule => freshLine written ++ "<hr />\n".toList
  | .fence language =>
    let mark :=
      if language.isEmpty then []
      else " class=\"language-".toList ++ language.flatMap escapeAttributeChar ++ ['"']
    freshLine written ++ "<pre><code".toList ++ mark ++ "></code></pre>\n".toList
  | .code text =>
    freshLine written ++ "<pre><code>".toList ++ text.flatMap escapeTextChar ++
      "</code></pre>\n".toList
  | .quote inner =>
    writeBlock (freshLine written ++ "<blockquote>\n".toList) false inner ++
      "</blockquote>\n".toList
  | .bullet inner =>
    writeBlock (freshLine written ++ "<ul>\n<li>".toList) true inner ++ "</li>\n</ul>\n".toList
  | .ordered start inner =>
    let mark := if start = 1 then [] else " start=\"".toList ++ (toString start).toList ++ ['"']
    writeBlock (freshLine written ++ "<ol".toList ++ mark ++ ">\n<li>".toList) true inner ++
      "</li>\n</ol>\n".toList

/-- The HTML of a line of markdown. -/
def toHtml (source : String) : String :=
  String.ofList (Text.trimEnd (writeBlock [] false (.ofChars source.toList)))

end Colloquy.Markdown
