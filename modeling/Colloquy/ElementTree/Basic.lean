import Colloquy.ElementTree.Properties
import Colloquy.Html.Escape
import Colloquy.Sink.Basic

/-!
# Element trees

An element tree keeps its elements in the order of their creation; the handle of an element is its
place in that order, and the root comes first. A new element goes to the end of the children of
its parent. The tree is a sink: a call that names a missing element is an error and changes
nothing.
-/

namespace Colloquy

/-- What an element holds besides its children. -/
inductive Content where
  /-- Plain text, to be escaped when it is written. -/
  | text (text : String)
  /-- Finished HTML, to be written as it is. -/
  | html (html : String)
  deriving DecidableEq, Repr

namespace Content

/-- The text or the HTML, without telling which. -/
def raw : Content → String
  | .text written => written
  | .html written => written

/-- The content as it is written in HTML. -/
def toHtml : Content → String
  | .text written => Html.escapeText written
  | .html written => written

end Content

/-- An element: what it is, how it is marked, what it holds and which elements are below it. -/
structure Element where
  role : Role
  classes : List String
  attributes : Properties
  styles : Properties
  content : Option Content
  children : List NodeId
  deriving DecidableEq, Repr

namespace Element

/-- A new element. -/
def new (role : Role) (classes : List String) : Element := ⟨role, classes, [], [], none, []⟩

/-- The element after a change. Appending HTML to plain text escapes the text first. -/
def apply (element : Element) : Edit → Element
  | .text text => { element with content := some (.text text) }
  | .html html =>
    let before := element.content.elim "" Content.toHtml
    { element with content := some (.html (before ++ html)) }
  | .attribute name value => { element with attributes := element.attributes.set name value }
  | .style property value => { element with styles := element.styles.set property value }

end Element

/-- The elements of a tree in order of creation, the root first. -/
structure ElementTree where
  elements : Array Element
  deriving DecidableEq, Repr

namespace ElementTree

/-- A tree of the root alone. -/
def empty : ElementTree := ⟨#[.new .root []]⟩

/-- The root. -/
def root : NodeId := ⟨0⟩

/-- The number of elements, the root included. -/
def size (tree : ElementTree) : Nat := tree.elements.size

/-- Whether there is nothing but the root. -/
def isEmpty (tree : ElementTree) : Bool := tree.size ≤ 1

/-- The element of a handle. -/
def get? (tree : ElementTree) (node : NodeId) : Option Element := tree.elements[node.index]?

/-- Replace the element of a handle by a function of it. -/
def modify (tree : ElementTree) (node : NodeId) (f : Element → Element) : ElementTree :=
  ⟨tree.elements.modify node.index f⟩

/-- Append a new child to an element. -/
def create (tree : ElementTree) (parent : NodeId) (role : Role) (classes : List String) :
    Except RenderError (NodeId × ElementTree) :=
  if parent.index < tree.size then
    let node : NodeId := ⟨tree.size⟩
    let linked := tree.modify parent fun element ↦
      { element with children := element.children ++ [node] }
    .ok (node, ⟨linked.elements.push (.new role classes)⟩)
  else .error (.unknownNode parent)

/-- Change an element. -/
def edit (tree : ElementTree) (node : NodeId) (change : Edit) : Except RenderError ElementTree :=
  if node.index < tree.size then .ok (tree.modify node (·.apply change))
  else .error (.unknownNode node)

/-- The tree as a sink. -/
def sink : Sink ElementTree where
  root := fun _ ↦ root
  create := fun parent role classes tree ↦
    match tree.create parent role classes with
    | .ok (node, tree') => (.ok node, tree')
    | .error e => (.error e, tree)
  edit := fun node change tree ↦
    match tree.edit node change with
    | .ok tree' => (.ok (), tree')
    | .error e => (.error e, tree)

end ElementTree
end Colloquy
