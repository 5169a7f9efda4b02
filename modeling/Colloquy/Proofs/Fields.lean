import Colloquy.Proofs.Census
import Colloquy.Proofs.History
import Colloquy.Proofs.Routing

/-!
# Fields and their way through markdown

A field is a text that a line has drawn: a title, a content, a footer, a comment or a line of no
known shape. Whether it goes through markdown is decided by the lines before its own, and by its own
configuration where they say nothing; a footer belongs to the line of its message, whichever line
brings it. Main statement: the nodes that show texts are those of the fields, in their order; the
markdown renderer is asked once for each node that says so, in the order of creation, for the text
of its field; and every other field stands in its node as it is.
-/

namespace Colloquy

variable {τ : Type}

/-! ### Fields of a script -/

/-- A text that a line has drawn. -/
structure Field where
  /-- The role of the node that shows the text. -/
  role : Role
  text : String
  /-- Whether the text goes through markdown. -/
  markdown : Bool
  deriving DecidableEq, Repr

/-- Whether nodes of the role show a text. -/
def Role.showsText : Role → Bool
  | .title | .content | .footer | .commentBody | .unparsed => true
  | _ => false

namespace Config

end Config

/-! ### Switches in the session -/

namespace Session

end Session

/-! ### Fields of a sketch -/

namespace Sketch

/-- The field that a sketched node shows. -/
def field? (sketch : Sketch) : Option Field :=
  match sketch.inscription with
  | .blank => none
  | .verbatim text => some ⟨sketch.role, text, false⟩
  | .markdown source => some ⟨sketch.role, source, true⟩

/-- The node has a role and classes that say what it is inscribed with. -/
structure IsTyped (sketch : Sketch) : Prop where
  rendered : Classes.render ∈ sketch.classes ↔ ∃ source, sketch.inscription = .markdown source
  showsText : sketch.role.showsText = sketch.field?.isSome

/-- The nodes of the forest are typed, and the texts among them are the fields, in document order. -/
structure Lists (sketch : Forest Sketch) (fields : List Field) : Prop where
  isTyped : ∀ node ∈ sketch.preorder, node.IsTyped
  fields_eq : sketch.preorder.filterMap field? = fields

/-- Joined forests show the fields of the one and then those of the other. -/
theorem Lists.append {first later : Forest Sketch} {fields fields' : List Field}
    (hfirst : Lists first fields) (hlater : Lists later fields') :
    Lists (first ++ later) (fields ++ fields') where
  isTyped := by
    rw [Forest.preorder_append]
    exact List.forall_mem_append.mpr ⟨hfirst.isTyped, hlater.isTyped⟩
  fields_eq := by
    rw [Forest.preorder_append, List.filterMap_append, hfirst.fields_eq, hlater.fields_eq]

/-- The field of a node comes before those below it. -/
theorem Lists.cons {node : Sketch} {below : Forest Sketch} {fields : List Field}
    (hnode : node.IsTyped) (hbelow : Lists below fields) :
    Lists (.cons node below .nil) (node.field?.toList ++ fields) where
  isTyped := by
    simp only [Forest.preorder, List.append_nil]
    exact List.forall_mem_cons.mpr ⟨hnode, hbelow.isTyped⟩
  fields_eq := by
    simp only [Forest.preorder, List.append_nil, List.filterMap_cons, hbelow.fields_eq]
    cases node.field? <;> rfl

/-- The styles of a node are no part of what makes it typed. -/
theorem IsTyped.styled {node : Sketch} (h : node.IsTyped) (styles : Properties) :
    { node with styles }.IsTyped :=
  ⟨h.rendered, h.showsText⟩

end Sketch

namespace Session

end Session

/-! ### New nodes of a tree -/

/-- The elements from a number on, each under its handle, in document order. -/
def ElementTree.newer (tree : ElementTree) (bound : Nat) : List (NodeId × Element) :=
  tree.whole.preorder.filter (bound ≤ ·.1.index)

/-- A new element is under its handle. -/
theorem ElementTree.get?_of_mem_newer {tree : ElementTree} {bound : Nat}
    {entry : NodeId × Element} (h : entry ∈ tree.newer bound) :
    tree.get? entry.1 = some entry.2 ∧ bound ≤ entry.1.index := by
  rw [newer, List.mem_filter] at h
  exact ⟨get?_of_mem_forestBelow h.1, of_decide_eq_true h.2⟩

/-- The wrapper of a dialogue. -/
def Sketch.wrapper : Sketch where
  role := .wrapper
  classes := [Classes.dialogueWrapper]

/-- The node shows the field: its class says whether the field goes through markdown. If so, the
renderer was asked for the text of the field, and if not, the node holds that text. -/
structure Field.ShownBy (context : MarkdownContext) (calls : List MarkdownCall)
    (entry : NodeId × Element) (field : Field) : Prop where
  role_eq : entry.2.role = field.role
  rendered_iff : Classes.render ∈ entry.2.classes ↔ field.markdown = true
  requested : field.markdown = true → ⟨field.text, entry.1, context⟩ ∈ calls
  verbatim : field.markdown = false → entry.2.content = some (.text field.text)

/-- The node shows the field of a sketched node, or both are without a text and the node is not of
the class. -/
def Sketch.ShownBy (context : MarkdownContext) (calls : List MarkdownCall)
    (entry : NodeId × Element) (node : Sketch) : Prop :=
  entry.2.role.showsText = node.field?.isSome ∧
    node.field?.elim (Classes.render ∉ entry.2.classes) (·.ShownBy context calls entry)

namespace Tallies

variable {context : MarkdownContext} {bound : Nat} {calls : List MarkdownCall} {tree : ElementTree}

/-- A new element that looks as sketched, with the sources of the requests, shows the field of its
sketch, or it is one without a text and not of the class. -/
theorem shows (h : Tallies context bound calls tree) {entry : NodeId × Element}
    (hentry : entry ∈ tree.newer bound) {node : Sketch} (hnode : node.IsTyped)
    (hdepicts : node.DepictedBy (fun source content ↦ content = some (.html source))
      (entry.2.overlaid calls entry.1).bare) :
    node.ShownBy context calls entry := by
  obtain ⟨hget, hbound⟩ := ElementTree.get?_of_mem_newer hentry
  obtain ⟨content, hcontent, helement⟩ := hdepicts
  have hrole : entry.2.role = node.role :=
    (entry.2.role_overlaid calls entry.1).symm.trans (congrArg Element.role helement)
  have hclasses : entry.2.classes = node.classes :=
    (entry.2.classes_overlaid calls entry.1).symm.trans (congrArg Element.classes helement)
  have hrendered := hnode.rendered
  rw [← hclasses] at hrendered
  refine ⟨hrole ▸ hnode.showsText, ?_⟩
  rw [Sketch.field?]
  cases hinscription : node.inscription with
  | blank =>
    simp only [hinscription, reduceCtorEq, exists_false, iff_false] at hrendered
    exact hrendered
  | verbatim text =>
    simp only [hinscription, reduceCtorEq, exists_false, iff_false] at hrendered
    rw [hinscription] at hcontent
    rw [h.overlaid_eq_self hget hrendered] at helement
    exact {
      role_eq := hrole
      rendered_iff := iff_of_false hrendered Bool.false_ne_true
      requested := fun hmarkdown ↦ nomatch hmarkdown
      verbatim := fun _ ↦ (congrArg Element.content helement).trans hcontent }
  | markdown source =>
    have hclass := hrendered.mpr ⟨source, hinscription⟩
    rw [hinscription] at hcontent
    obtain ⟨asked, hcall, hoverlaid⟩ := h.exists_call hget hbound hclass
    rw [hoverlaid] at helement
    obtain rfl : asked = source := by
      have hsame := (congrArg Element.content helement).trans hcontent
      injection hsame with hhtml
      injection hhtml
    exact {
      role_eq := hrole
      rendered_iff := iff_of_true hclass rfl
      requested := fun _ ↦ hcall
      verbatim := fun hverbatim ↦ nomatch hverbatim }

end Tallies

end Colloquy
