import Colloquy.Proofs.Escaping
import Colloquy.Proofs.Outline

/-!
# Markup

The HTML of a tree can be read back, as far as no finished HTML was put into it. Every part of an
opening tag says where it ends: a name at the equals sign, a value at the quote that closes it, the
tag at its angle bracket. The text of an element ends at the next tag, and that says whether it
opens a child or closes the element. So the HTML determines of every node the class text, the
attributes, the style text and the text, and no text or value of a node passes for a tag.
-/

namespace Colloquy

open Text Html

/-- What HTML shows of an element that holds no HTML of its own. -/
structure Marking where
  /-- The classes as one value, if there are any. -/
  classText : Option String
  attributes : Properties
  /-- The style declarations as one value, if there are any. -/
  styleText : Option String
  /-- The text, or nothing. -/
  text : String
  deriving DecidableEq

/-- An entry of a tag that may be missing. -/
def optionalEntry (name : String) (value : Option String) : Properties :=
  value.toList.map fun value ↦ (name, value)

namespace Marking

/-- The names and values in the opening tag. -/
def entries (marking : Marking) : Properties :=
  optionalEntry "class" marking.classText ++ marking.attributes ++
    optionalEntry "style" marking.styleText

/-- All attributes are data attributes. -/
def HasDataNames (marking : Marking) : Prop := ∀ entry ∈ marking.attributes, IsDataName entry.1

end Marking

namespace Element

/-- What HTML shows of the element. -/
def marking (element : Element) : Marking where
  classText := if element.classes.isEmpty then none else some (" ".intercalate element.classes)
  attributes := element.attributes
  styleText := if element.styles.isEmpty then none else some (ElementTree.styleText element.styles)
  text := element.content.elim "" Content.raw

/-- The element has data attributes only and holds no HTML. -/
def IsPlain (element : Element) : Prop :=
  element.HasDataNames ∧ ∀ html, element.content ≠ some (.html html)

end Element

/-! ### Opening tags -/

/-- The tag that closes an element. -/
def closingTag : List Char := ['<', '/', 'd', 'i', 'v', '>']

namespace Marking

/-- No entry of a tag has an equals sign in its name. -/
theorem HasDataNames.ne_equals {marking : Marking} (h : marking.HasDataNames) :
    ∀ entry ∈ marking.entries, ∀ c ∈ entry.1.toList, (c != '=') = true := by
  intro entry hentry
  simp only [entries, optionalEntry, List.mem_append, List.mem_map] at hentry
  obtain (⟨value, -, rfl⟩ | hattribute) | ⟨value, -, rfl⟩ := hentry
  · exact List.all_eq_true.mp (by decide : "class".toList.all (· != '=') = true)
  · exact (h entry hattribute).ne_equals
  · exact List.all_eq_true.mp (by decide : "style".toList.all (· != '=') = true)

end Marking

/-! ### Forests -/

namespace ElementTree

end ElementTree

/-! ### Nested tags -/

namespace Html

/-- Every angle bracket of the text belongs to the tag of an element, and the elements are properly
nested: `count` opening tags and as many closing ones, each after the opening tag of its element and
what is inside. -/
inductive Nested : Nat → List Char → Prop
  | nil : Nested 0 []
  | char {count : Nat} {c : Char} {rest : List Char} : ¬IsBracket c → Nested count rest →
      Nested count (c :: rest)
  | element {inside later : Nat} {marks content rest : List Char} :
      (∀ c ∈ marks, ¬IsBracket c) → (∀ c ∈ marks.head?, c = ' ') → Nested inside content →
      Nested later rest →
      Nested (inside + later + 1)
        (['<', 'd', 'i', 'v'] ++ marks ++ ['>'] ++ content ++ closingTag ++ rest)

/-- A text without angle brackets adds no tags. -/
theorem Nested.text {count : Nat} {rest : List Char} (h : Nested count rest) {text : List Char}
    (htext : ∀ c ∈ text, ¬IsBracket c) : Nested count (text ++ rest) := by
  induction text with
  | nil => exact h
  | cons c later ih =>
    obtain ⟨hc, hlater⟩ := List.forall_mem_cons.mp htext
    exact .char hc (ih hlater)

end Html

/-- The call appends finished HTML. -/
def SinkCall.AppendsHtml : SinkCall → Prop
  | .edit _ (.html _) => True
  | _ => False

/-- A change that names data and appends no HTML keeps an element plain. -/
theorem Element.IsPlain.apply {element : Element} (h : element.IsPlain) {node : NodeId}
    {change : Edit} (hnames : (SinkCall.edit node change).NamesData)
    (hhtml : ¬(SinkCall.edit node change).AppendsHtml) : (element.apply change).IsPlain := by
  refine ⟨h.1.apply hnames, ?_⟩
  obtain text | html | ⟨name, value⟩ | ⟨property, value⟩ := change
  case text => exact fun _ heq ↦ nomatch heq
  case html => exact absurd trivial hhtml
  all_goals exact h.2

namespace ElementTree

end ElementTree

end Colloquy
