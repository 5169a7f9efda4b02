import Colloquy.ElementTree.Basic
import Colloquy.Forest
import Colloquy.Text.Quoted

/-!
# Reading an element tree

What a tree shows is an ordered forest below its root. Everything that is read off a tree is read
off that forest: the nodes of a role in document order, the outline and the HTML.
-/

namespace Colloquy.ElementTree

/-- The forest below a list of handles, down to `depth` levels. Handles of missing elements are
left out. -/
def forestBelow (tree : ElementTree) : Nat → List NodeId → Forest (NodeId × Element)
  | 0, _ => .nil
  | depth + 1, nodes =>
    nodes.foldr
      (fun node siblings ↦
        match tree.get? node with
        | none => siblings
        | some element =>
          .cons (node, element) (tree.forestBelow depth element.children) siblings)
      .nil

/-- The whole tree, the root included. The children of an element are created after it, so no
path is longer than the number of elements. -/
def whole (tree : ElementTree) : Forest (NodeId × Element) := tree.forestBelow tree.size [root]

/-- The forest under the root. -/
def forest (tree : ElementTree) : Forest Element :=
  match tree.whole with
  | .nil => .nil
  | .cons _ children _ => children.map Prod.snd

/-- The handles of all elements of a role, in document order. -/
def findByRole (tree : ElementTree) (role : Role) : List NodeId :=
  (tree.whole.preorder.filter (·.2.role = role)).map Prod.fst

/-- The contents of all elements of a role, in document order. -/
def textsByRole (tree : ElementTree) (role : Role) : List String :=
  (tree.whole.preorder.filter (·.2.role = role)).map fun entry ↦
    entry.2.content.elim "" Content.raw

/-- The line of the outline for one element: its role, its attributes and its content. -/
def outlineLine (depth : Nat) (element : Element) : String :=
  let indentation := String.ofList (List.replicate (2 * depth) ' ')
  let attributes := element.attributes.map fun (name, value) ↦
    " " ++ name ++ "=" ++ Text.quoted value
  let content :=
    match element.content with
    | none => ""
    | some (.text text) => " " ++ Text.quoted text
    | some (.html html) => " html=" ++ Text.quoted html
  indentation ++ element.role.name ++ String.join attributes ++ content ++ "\n"

/-- The outline of a forest, its first level at a given depth. -/
def outlineOf (depth : Nat) : Forest Element → String
  | .nil => ""
  | .cons element children siblings =>
    outlineLine depth element ++ outlineOf (depth + 1) children ++ outlineOf depth siblings

/-- The outline of what is under the root: a line for each element, indented by depth. Styles and
classes are left out. -/
def outline (tree : ElementTree) : String := outlineOf 0 tree.forest

/-- An attribute as it is written in a tag. -/
def htmlAttribute (name value : String) : String :=
  " " ++ name ++ "=\"" ++ Html.escapeAttribute value ++ "\""

/-- The style declarations of an element, as one attribute value. -/
def styleText (styles : Properties) : String :=
  " ".intercalate (styles.map fun (property, value) ↦ property ++ ": " ++ value ++ ";")

/-- The opening tag of an element: its classes, its attributes and its styles. -/
def openingTag (element : Element) : String :=
  let classes :=
    if element.classes.isEmpty then "" else htmlAttribute "class" (" ".intercalate element.classes)
  let attributes := element.attributes.map fun (name, value) ↦ htmlAttribute name value
  let style :=
    if element.styles.isEmpty then "" else htmlAttribute "style" (styleText element.styles)
  "<div" ++ classes ++ String.join attributes ++ style ++ ">"

/-- The HTML of a forest: a `div` for each element, its own content before its children. -/
def htmlOf : Forest Element → String
  | .nil => ""
  | .cons element children siblings =>
    openingTag element ++ element.content.elim "" Content.toHtml ++ htmlOf children ++ "</div>" ++
      htmlOf siblings

/-- The HTML of what is under the root. -/
def toHtml (tree : ElementTree) : String := htmlOf tree.forest

end Colloquy.ElementTree
