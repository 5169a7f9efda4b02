import Colloquy.Proofs.Census
import Colloquy.Proofs.Interruption
import Colloquy.Proofs.Quotation
import Colloquy.Proofs.Trimming
import Mathlib.Data.List.Induction

/-!
# Outlines

An outline can be read back. Its lines are read from the left, and every part of a line says where
it ends: the indentation at the first letter, the role at the next space or line end, an attribute
at the quote that closes its value, and a content by the way it starts, as no attribute name starts
with a quote or as HTML does. Of the lines, those deeper than a line stand for what is below it. So
an outline determines the role, the attributes and the content of every node, as long as attributes
are named as data attributes are.
-/

namespace Colloquy

open Text

/-- A name of a data attribute: ASCII letters, digits and hyphens after the usual prefix. -/
def IsDataName (name : String) : Prop :=
  "data-".toList <+: name.toList ∧ ∀ c ∈ name.toList, c.isAlphanum = true ∨ c = '-'

instance (name : String) : Decidable (IsDataName name) :=
  decidable_of_iff ("data-".toList <+: name.toList ∧
    name.toList.all (fun c ↦ c.isAlphanum || c == '-') = true) (by simp [IsDataName])

/-- The attributes of the element are data attributes. -/
def Element.HasDataNames (element : Element) : Prop :=
  ∀ entry ∈ element.attributes, IsDataName entry.1

/-- What an outline shows of an element. -/
def Element.shown (element : Element) : Role × Properties × Option Content :=
  (element.role, element.attributes, element.content)

/-! ### Parts of a line -/

/-- A text of characters of one class ends where a character of another class follows. -/
theorem takeWhile_append_of_class (p : Char → Bool) {front rest : List Char}
    (hfront : ∀ c ∈ front, p c = true) (hrest : ∀ c ∈ rest.head?, p c = false) :
    (front ++ rest).takeWhile p = front := by
  rw [List.takeWhile_append_of_pos hfront]
  cases rest with
  | nil => exact List.append_nil front
  | cons c later =>
    rw [List.takeWhile_cons_of_neg (Bool.eq_false_iff.mp (hrest c rfl)), List.append_nil]

/-- A text of characters of one class, and what follows it with a character of another class, are
determined by the two together. -/
theorem append_inj_of_class (p : Char → Bool) {front front' rest rest' : List Char}
    (hfront : ∀ c ∈ front, p c = true) (hfront' : ∀ c ∈ front', p c = true)
    (hrest : ∀ c ∈ rest.head?, p c = false) (hrest' : ∀ c ∈ rest'.head?, p c = false)
    (h : front ++ rest = front' ++ rest') : front = front' ∧ rest = rest' := by
  have htake := congrArg (List.takeWhile p) h
  rw [takeWhile_append_of_class p hfront hrest, takeWhile_append_of_class p hfront' hrest'] at htake
  exact ⟨htake, List.append_cancel_left (htake ▸ h)⟩

namespace Role

/-- The name of a role is a word: there is no white space in it. -/
theorem isBlank_of_mem_name (role : Role) : ∀ c ∈ role.name.toList, isBlank c = false := by
  have hall : ∀ role ∈ Role.all, role.name.toList.all (!isBlank ·) = true := by decide +kernel
  intro c hc
  simpa using List.all_eq_true.mp (hall role role.mem_all) c hc

/-- The name of a role is not empty. -/
theorem name_ne_nil (role : Role) : role.name.toList ≠ [] := by
  have hall : ∀ role ∈ Role.all, role.name.toList ≠ [] := by decide +kernel
  exact hall role role.mem_all

/-- Roles are told apart by their names. -/
theorem name_injective {role role' : Role} (h : role.name.toList = role'.name.toList) :
    role = role' := by
  have hall : ∀ role ∈ Role.all, ∀ role' ∈ Role.all,
      role.name.toList = role'.name.toList → role = role' := by decide +kernel
  exact hall role role.mem_all role' role'.mem_all h

end Role

/-- An attribute as the outline writes it. -/
def writtenAttribute (entry : String × String) : List Char :=
  ' ' :: (entry.1.toList ++ '=' :: (quoted entry.2).toList)

/-- A content as the outline writes it. -/
def writtenContent : Option Content → List Char
  | none => []
  | some (.text text) => ' ' :: (quoted text).toList
  | some (.html html) => [' ', 'h', 't', 'm', 'l', '='] ++ (quoted html).toList

/-- A line of the outline without its end. -/
def writtenLine (depth : Nat) (element : Element) : List Char :=
  List.replicate (2 * depth) ' ' ++ (element.role.name.toList ++
    (element.attributes.flatMap writtenAttribute ++ writtenContent element.content))

/-- A line of the outline is the indentation, the role, the attributes and the content. -/
theorem ElementTree.toList_outlineLine (depth : Nat) (element : Element) :
    (outlineLine depth element).toList = writtenLine depth element ++ ['\n'] := by
  obtain ⟨role, classes, attributes, styles, content, children⟩ := element
  have hspace : " ".toList = [' '] := rfl
  have hequals : "=".toList = ['='] := rfl
  have hhtml : " html=".toList = [' ', 'h', 't', 'm', 'l', '='] := rfl
  have hend : "\n".toList = ['\n'] := rfl
  have hnone : "".toList = [] := rfl
  have hattributes : (String.join (attributes.map fun entry ↦
      " " ++ entry.1 ++ "=" ++ quoted entry.2)).toList = attributes.flatMap writtenAttribute := by
    induction attributes with
    | nil => rfl
    | cons entry later ih =>
      simp only [List.map_cons, String.join_cons, String.toList_append, ih, List.flatMap_cons,
        writtenAttribute, List.append_assoc, hspace, hequals, List.cons_append, List.nil_append]
  obtain _ | (text | html) := content <;>
    simp only [outlineLine, writtenLine, String.toList_append, hattributes, writtenContent,
      String.toList_ofList, List.append_assoc, hhtml, hspace, hend, hnone, List.cons_append,
      List.nil_append]

/-- The character with which an attribute starts, after the space. -/
theorem IsDataName.exists_eq_cons {name : String} (h : IsDataName name) :
    ∃ later, name.toList = 'd' :: later := by
  obtain ⟨later, hlater⟩ := h.1
  exact ⟨_, hlater.symm⟩

/-- There is no equals sign in the name of a data attribute. -/
theorem IsDataName.ne_equals {name : String} (h : IsDataName name) :
    ∀ c ∈ name.toList, (c != '=') = true := by
  intro c hc
  rw [bne_iff_ne]
  rintro rfl
  exact absurd (h.2 _ hc) (by decide)

/-- An attribute and what follows it are determined by the two together. -/
theorem writtenAttribute_append_inj {entry entry' : String × String} {rest rest' : List Char}
    (hentry : IsDataName entry.1) (hentry' : IsDataName entry'.1)
    (h : writtenAttribute entry ++ rest = writtenAttribute entry' ++ rest') :
    entry = entry' ∧ rest = rest' := by
  simp only [writtenAttribute, List.cons_append, List.append_assoc, List.cons.injEq, true_and] at h
  have hequals : ∀ later : List Char, ∀ c ∈ ('=' :: later).head?, (c != '=') = false := by
    rintro later c ⟨⟩
    rfl
  obtain ⟨hname, htail⟩ := append_inj_of_class (· != '=') hentry.ne_equals hentry'.ne_equals
    (hequals _) (hequals _) h
  obtain ⟨hvalue, rfl⟩ := quoted_append_inj (List.cons.inj htail).2
  exact ⟨Prod.ext (String.toList_inj.mp hname) hvalue, rfl⟩

/-- No attribute starts here. -/
def EndsAttributes (rest : List Char) : Prop := ∀ later, rest ≠ ' ' :: 'd' :: later

/-- Where an attribute starts the attributes do not end. -/
theorem not_endsAttributes {entry : String × String} (rest : List Char)
    (h : IsDataName entry.1) : ¬ EndsAttributes (writtenAttribute entry ++ rest) := by
  obtain ⟨later, hlater⟩ := h.exists_eq_cons
  intro hends
  apply hends
  rw [writtenAttribute, hlater]
  rfl

/-- A content, or the end of the line, does not start as an attribute does. -/
theorem endsAttributes_writtenContent (content : Option Content) (rest : List Char) :
    EndsAttributes (writtenContent content ++ '\n' :: rest) := by
  obtain _ | (text | html) := content
  · exact fun later h ↦ nomatch h
  · intro later h
    rw [writtenContent, toList_quoted] at h
    exact nomatch h
  · exact fun later h ↦ nomatch h

/-- A content at the end of a line and what follows the line are determined by the two together. -/
theorem writtenContent_append_inj {content content' : Option Content} {rest rest' : List Char}
    (h : writtenContent content ++ '\n' :: rest = writtenContent content' ++ '\n' :: rest') :
    content = content' ∧ rest = rest' := by
  obtain _ | (text | html) := content <;> obtain _ | (text' | html') := content'
  case none.none => exact ⟨rfl, (List.cons.inj h).2⟩
  case some.text.some.text =>
    obtain ⟨rfl, hrest⟩ := quoted_append_inj (List.cons.inj h).2
    exact ⟨rfl, (List.cons.inj hrest).2⟩
  case some.html.some.html =>
    obtain ⟨rfl, hrest⟩ := quoted_append_inj (List.append_cancel_left (by
      simpa only [writtenContent, List.append_assoc] using h))
    exact ⟨rfl, (List.cons.inj hrest).2⟩
  all_goals
    simp only [writtenContent, toList_quoted] at h
    exact nomatch h

/-! ### Lines -/

/-- What follows the role in a line starts with white space. -/
theorem isBlank_of_mem_head? (attributes : Properties) (content : Option Content)
    (rest : List Char) :
    ∀ c ∈ (attributes.flatMap writtenAttribute ++ (writtenContent content ++ '\n' :: rest)).head?,
      (!isBlank c) = false := by
  intro c hc
  cases attributes with
  | nil => obtain _ | (text | html) := content <;> cases hc <;> decide
  | cons entry later =>
    cases hc
    decide

/-- What follows the indentation in a line does not start with a space. -/
theorem Role.ne_space_of_mem_head? (role : Role) (rest : List Char) :
    ∀ c ∈ (role.name.toList ++ rest).head?, (c == ' ') = false := by
  intro c hc
  rw [List.head?_append_of_ne_nil _ role.name_ne_nil] at hc
  have hblank := role.isBlank_of_mem_name c (List.mem_of_mem_head? hc)
  rw [beq_eq_false_iff_ne]
  rintro rfl
  cases hblank

/-- A character that is repeated is nothing else. -/
theorem beq_of_mem_replicate (count : Nat) (c : Char) :
    ∀ c' ∈ List.replicate count c, (c' == c) = true :=
  fun _ hc ↦ beq_iff_eq.mpr (List.eq_of_mem_replicate hc)

/-- A line and what follows it are determined by the two together, as far as the line goes. -/
theorem writtenLine_append_inj {depth depth' : Nat} {element element' : Element}
    (helement : element.HasDataNames) (helement' : element'.HasDataNames) {rest rest' : List Char}
    (h : writtenLine depth element ++ '\n' :: rest = writtenLine depth' element' ++ '\n' :: rest') :
    depth = depth' ∧ element.shown = element'.shown ∧ rest = rest' := by
  simp only [writtenLine, List.append_assoc] at h
  have hword : ∀ role : Role, ∀ c ∈ role.name.toList, (!isBlank c) = true := fun role c hc ↦ by
    rw [role.isBlank_of_mem_name c hc]
    rfl
  obtain ⟨hindent, h⟩ := append_inj_of_class (· == ' ') (beq_of_mem_replicate _ _)
    (beq_of_mem_replicate _ _) (element.role.ne_space_of_mem_head? _)
    (element'.role.ne_space_of_mem_head? _) h
  obtain ⟨hrole, h⟩ := append_inj_of_class (!isBlank ·) (hword element.role) (hword element'.role)
    (isBlank_of_mem_head? _ _ rest) (isBlank_of_mem_head? _ _ rest') h
  obtain ⟨hattributes, h⟩ := flatMap_append_inj (fun entry : String × String ↦ IsDataName entry.1)
    EndsAttributes writtenAttribute_append_inj not_endsAttributes helement helement'
    (endsAttributes_writtenContent _ _) (endsAttributes_writtenContent _ _) h
  obtain ⟨hcontent, hrest⟩ := writtenContent_append_inj h
  have hlength := congrArg List.length hindent
  rw [List.length_replicate, List.length_replicate] at hlength
  refine ⟨by omega, ?_, hrest⟩
  rw [Element.shown, Element.shown, Role.name_injective hrole, hattributes, hcontent]

/-! ### Forests -/

/-- What follows is no line, or a line of a smaller depth. -/
def Shallower (depth : Nat) (rest : List Char) : Prop :=
  rest = [] ∨ (rest.takeWhile (· == ' ')).length < 2 * depth

/-- A line is indented by its depth. -/
theorem length_takeWhile_writtenLine (depth : Nat) (element : Element) (rest : List Char) :
    ((writtenLine depth element ++ rest).takeWhile (· == ' ')).length = 2 * depth := by
  simp only [writtenLine, List.append_assoc]
  rw [takeWhile_append_of_class (· == ' ') (beq_of_mem_replicate _ _)
    (element.role.ne_space_of_mem_head? _), List.length_replicate]

/-- A line is not shallower than its depth. -/
theorem not_shallower_writtenLine (depth : Nat) (element : Element) (rest : List Char) :
    ¬ Shallower depth (writtenLine depth element ++ '\n' :: rest) := by
  rintro (hnil | hlt)
  · exact List.append_ne_nil_of_right_ne_nil _ (List.cons_ne_nil _ _) hnil
  · rw [length_takeWhile_writtenLine] at hlt
    exact Nat.lt_irrefl _ hlt

namespace ElementTree

/-- The outline of a forest is the line of its first node, what is below that, and the siblings. -/
theorem toList_outlineOf_cons (depth : Nat) (element : Element) (children siblings : Forest Element) :
    (outlineOf depth (.cons element children siblings)).toList =
      writtenLine depth element ++ '\n' ::
        ((outlineOf (depth + 1) children).toList ++ (outlineOf depth siblings).toList) := by
  simp only [outlineOf, String.toList_append, toList_outlineLine, List.append_assoc,
    List.cons_append, List.nil_append]

/-- What follows the children of a node is shallower than they are. -/
theorem shallower_outlineOf {depth : Nat} {rest : List Char} (h : Shallower depth rest)
    (siblings : Forest Element) :
    Shallower (depth + 1) ((outlineOf depth siblings).toList ++ rest) := by
  cases siblings with
  | nil =>
    apply h.imp id
    intro hlt
    exact Nat.lt_of_lt_of_le hlt (Nat.mul_le_mul_left 2 (Nat.le_succ depth))
  | cons element children later =>
    rw [toList_outlineOf_cons, List.append_assoc]
    right
    rw [length_takeWhile_writtenLine]
    omega

/-- What an outline shows of a forest, and what follows it with shallower lines, are determined by the
two together. -/
theorem outlineOf_append_inj {depth : Nat} {forest forest' : Forest Element}
    (hforest : ∀ element ∈ forest.preorder, element.HasDataNames)
    (hforest' : ∀ element ∈ forest'.preorder, element.HasDataNames) {rest rest' : List Char}
    (hrest : Shallower depth rest) (hrest' : Shallower depth rest')
    (h : (outlineOf depth forest).toList ++ rest = (outlineOf depth forest').toList ++ rest') :
    forest.map Element.shown = forest'.map Element.shown ∧ rest = rest' := by
  induction forest generalizing depth forest' rest rest' with
  | nil =>
    cases forest' with
    | nil => exact ⟨rfl, h⟩
    | cons element' children' siblings' =>
      rw [toList_outlineOf_cons, List.append_assoc] at h
      rw [show rest = _ from h] at hrest
      exact absurd hrest (not_shallower_writtenLine _ _ _)
  | cons element children siblings ihc ihs =>
    cases forest' with
    | nil =>
      rw [toList_outlineOf_cons, List.append_assoc] at h
      rw [show rest' = _ from h.symm] at hrest'
      exact absurd hrest' (not_shallower_writtenLine _ _ _)
    | cons element' children' siblings' =>
      simp only [Forest.preorder, List.forall_mem_cons, List.forall_mem_append] at hforest hforest'
      obtain ⟨helement, hchildren, hsiblings⟩ := hforest
      obtain ⟨helement', hchildren', hsiblings'⟩ := hforest'
      simp only [toList_outlineOf_cons, List.append_assoc, List.cons_append] at h
      obtain ⟨-, hshown, hbelow⟩ := writtenLine_append_inj helement helement' h
      obtain ⟨hmap, hlater⟩ := ihc hchildren hchildren' (shallower_outlineOf hrest siblings)
        (shallower_outlineOf hrest' siblings') hbelow
      obtain ⟨hmap', hend⟩ := ihs hsiblings hsiblings' hrest hrest' hlater
      exact ⟨by rw [Forest.map, Forest.map, hshown, hmap, hmap'], hend⟩

/-- An outline shows no more than it does of each node. -/
theorem outlineOf_congr {forest forest' : Forest Element}
    (h : forest.map Element.shown = forest'.map Element.shown) (depth : Nat) :
    outlineOf depth forest = outlineOf depth forest' := by
  induction forest generalizing depth forest' with
  | nil =>
    cases forest' with
    | nil => rfl
    | cons element' children' siblings' => cases h
  | cons element children siblings ihc ihs =>
    cases forest' with
    | nil => cases h
    | cons element' children' siblings' =>
      obtain ⟨hshown, hchildren, hsiblings⟩ := Forest.cons.inj h
      obtain ⟨hrole, hmarks⟩ := Prod.mk.inj hshown
      obtain ⟨hattributes, hcontent⟩ := Prod.mk.inj hmarks
      have hline : outlineLine depth element = outlineLine depth element' := by
        simp only [outlineLine, hrole, hattributes, hcontent]
      rw [outlineOf, outlineOf, hline, ihc hchildren, ihs hsiblings]

end ElementTree

/-! ### Lines of an outline -/

/-- The labels in document order, each with its depth. -/
def Forest.levels {α : Type} (depth : Nat) : Forest α → List (Nat × α)
  | .nil => []
  | .cons label children siblings =>
    (depth, label) :: (children.levels (depth + 1) ++ siblings.levels depth)

/-- Leaving out the depths leaves the document order. -/
theorem Forest.map_snd_levels {α : Type} (forest : Forest α) (depth : Nat) :
    (forest.levels depth).map Prod.snd = forest.preorder := by
  induction forest generalizing depth with
  | nil => rfl
  | cons label children siblings ihc ihs =>
    rw [levels, List.map_cons, List.map_append, ihc, ihs, preorder]

/-- Lines without line breaks, each ended by a line feed, are shown as they are. -/
theorem displayed_flatMap {lines : List (List Char)}
    (h : ∀ line ∈ lines, '\n' ∉ line ∧ '\r' ∉ line) :
    displayed (lines.flatMap (· ++ ['\n'])) = lines := by
  induction lines with
  | nil => rfl
  | cons line rest ih =>
    obtain ⟨⟨hfeed, hreturn⟩, hrest⟩ := List.forall_mem_cons.mp h
    have hdrop : dropReturn line = line := if_neg fun hlast ↦ hreturn (List.mem_of_getLast? hlast)
    have hlater := ih hrest
    rw [displayed] at hlater
    rw [displayed, List.flatMap_cons, List.append_assoc, List.singleton_append, pieces_append hfeed]
    cases hpieces : pieces (rest.flatMap (· ++ ['\n'])) with
    | nil => exact absurd hpieces (pieces_ne_nil _)
    | cons first later =>
      rw [displayedPieces, hdrop, ← hpieces, hlater]
      exact List.cons_ne_nil first later

/-- A line of the outline holds no line break. -/
theorem lineBreak_not_mem_writtenLine {lineBreak : Char}
    (hbreak : lineBreak = '\n' ∨ lineBreak = '\r') {element : Element}
    (helement : element.HasDataNames) (depth : Nat) : lineBreak ∉ writtenLine depth element := by
  have hspace : lineBreak ≠ ' ' := by
    obtain rfl | rfl := hbreak <;> decide
  have hrole : lineBreak ∉ element.role.name.toList := by
    intro hmem
    have hblank := element.role.isBlank_of_mem_name _ hmem
    obtain rfl | rfl := hbreak <;> cases hblank
  have hattributes : lineBreak ∉ element.attributes.flatMap writtenAttribute := by
    rw [List.mem_flatMap]
    rintro ⟨entry, hentry, hmem⟩
    simp only [writtenAttribute, List.mem_cons, List.mem_append] at hmem
    obtain hmem | hmem | hmem | hmem := hmem
    · exact hspace hmem
    · have hname := (helement entry hentry).2 _ hmem
      obtain rfl | rfl := hbreak <;> revert hname <;> decide
    · obtain rfl | rfl := hbreak <;> cases hmem
    · exact lineBreak_not_mem_quoted hbreak _ hmem
  have hcontent : lineBreak ∉ writtenContent element.content := by
    obtain _ | (text | html) := element.content
    · exact List.not_mem_nil
    · exact List.not_mem_cons_of_ne_of_not_mem hspace (lineBreak_not_mem_quoted hbreak text)
    · rw [writtenContent, List.mem_append, not_or]
      refine ⟨?_, lineBreak_not_mem_quoted hbreak html⟩
      obtain rfl | rfl := hbreak <;> decide
  simp only [writtenLine, List.mem_append, List.mem_replicate, not_or, not_and]
  exact ⟨fun _ ↦ hspace, hrole, hattributes, hcontent⟩

namespace ElementTree

/-- An outline is one line after the other, each for the next node in document order. -/
theorem toList_outlineOf (forest : Forest Element) (depth : Nat) :
    (outlineOf depth forest).toList =
      ((forest.levels depth).map fun (depth, element) ↦ writtenLine depth element).flatMap
        (· ++ ['\n']) := by
  induction forest generalizing depth with
  | nil => rfl
  | cons element children siblings ihc ihs =>
    rw [toList_outlineOf_cons, ihc, ihs, Forest.levels]
    simp only [List.map_cons, List.map_append, List.flatMap_cons, List.flatMap_append,
      List.append_assoc, List.singleton_append]

/-- The lines of an outline are those of the nodes in document order. -/
theorem displayed_outlineOf {forest : Forest Element}
    (h : ∀ element ∈ forest.preorder, element.HasDataNames) (depth : Nat) :
    displayed (outlineOf depth forest).toList =
      (forest.levels depth).map fun (depth, element) ↦ writtenLine depth element := by
  rw [toList_outlineOf, displayed_flatMap]
  intro line hline
  obtain ⟨⟨level, element⟩, hmem, rfl⟩ := List.mem_map.mp hline
  have helement : element.HasDataNames := by
    apply h
    rw [← forest.map_snd_levels depth]
    exact List.mem_map_of_mem hmem
  exact ⟨lineBreak_not_mem_writtenLine (.inl rfl) helement level,
    lineBreak_not_mem_writtenLine (.inr rfl) helement level⟩

end ElementTree

/-! ### Trees that calls build -/

/-- The call sets no attribute but a data attribute. -/
def SinkCall.NamesData : SinkCall → Prop
  | .edit _ (.attribute name _) => IsDataName name
  | _ => True

/-- Setting a property brings no entry but that one. -/
theorem Properties.mem_set {properties : Properties} {name value : String}
    {entry : String × String} (h : entry ∈ properties.set name value) :
    entry = (name, value) ∨ entry ∈ properties := by
  induction properties with
  | nil => exact .inl (List.mem_singleton.mp h)
  | cons first rest ih =>
    rw [set] at h
    split at h
    · exact (List.mem_cons.mp h).imp_right (List.mem_cons_of_mem first)
    · obtain rfl | hrest := List.mem_cons.mp h
      · exact .inr List.mem_cons_self
      · exact (ih hrest).imp_right (List.mem_cons_of_mem first)

/-- A change that names data keeps the attributes of an element data attributes. -/
theorem Element.HasDataNames.apply {element : Element} (h : element.HasDataNames) {node : NodeId}
    {change : Edit} (hchange : (SinkCall.edit node change).NamesData) :
    (element.apply change).HasDataNames := by
  obtain text | html | ⟨name, value⟩ | ⟨property, value⟩ := change
  case «attribute» =>
    intro entry hentry
    obtain rfl | hold := Properties.mem_set hentry
    · exact hchange
    · exact h entry hold
  all_goals exact h

namespace ElementTree

/-- All attributes of the tree are data attributes. -/
def HasDataNames (tree : ElementTree) : Prop :=
  ∀ ⦃node element⦄, tree.get? node = some element → element.HasDataNames

/-- A call is refused, or creates an element below another, or changes one. -/
theorem send_cases (call : SinkCall) (tree : ElementTree) :
    (call.send sink tree).2 = tree ∨
      (∃ parent role classes, call = .create parent role classes ∧ parent.index < tree.size ∧
        (call.send sink tree).2 = tree.adopt parent (.new role classes)) ∨
      ∃ node change, call = .edit node change ∧ node.index < tree.size ∧
        (call.send sink tree).2 = tree.modify node (·.apply change) := by
  rw [Sink.snd_send]
  cases call with
  | create parent role classes =>
    by_cases hparent : parent.index < tree.size
    · refine .inr (.inl ⟨parent, role, classes, rfl, hparent, ?_⟩)
      rw [Sink.answer, sink_create hparent]
    · simp only [Sink.answer, sink, ElementTree.create, if_neg hparent, true_or]
  | edit node change =>
    by_cases hnode : node.index < tree.size
    · refine .inr (.inr ⟨node, change, rfl, hnode, ?_⟩)
      rw [Sink.answer, sink_edit hnode]
    · simp only [Sink.answer, sink, ElementTree.edit, if_neg hnode, true_or]

/-- A call makes a reachable tree of a reachable one. -/
theorem Reachable.send {tree : ElementTree} (htree : tree.Reachable) (call : SinkCall) :
    (call.send sink tree).2.Reachable := by
  obtain hsame | ⟨parent, role, classes, -, hparent, hcreate⟩ | ⟨node, change, -, hnode, hedit⟩ :=
    send_cases call tree
  · rwa [hsame]
  · rw [hcreate]
    exact htree.create (create_eq hparent role classes)
  · rw [hedit]
    exact htree.edit (edit_eq hnode change)

/-- Any calls at all build a reachable tree. -/
theorem reachable_replay_empty (calls : List SinkCall) : (sink.replay calls .empty).Reachable := by
  induction calls using List.reverseRecOn with
  | nil => exact .empty
  | append_singleton past call ih =>
    rw [Sink.replay_append_singleton, ← Sink.snd_send]
    exact ih.send call

/-- What holds of new elements and is kept by new children and by each of some changes holds of all
elements of the tree that is built with these. -/
theorem forall_get?_replay {good : Element → Prop}
    (hnew : ∀ role classes, good (.new role classes))
    (hchildren : ∀ element children, good element → good { element with children })
    {calls : List SinkCall} (hcalls : ∀ node change, SinkCall.edit node change ∈ calls →
      ∀ element, good element → good (element.apply change))
    {node : NodeId} {element : Element}
    (h : (sink.replay calls .empty).get? node = some element) : good element := by
  induction calls using List.reverseRecOn generalizing node element with
  | nil =>
    obtain ⟨_ | index⟩ := node
    · cases h
      exact hnew .root []
    · cases h
  | append_singleton past call ih =>
    have hpast : ∀ {node element}, (sink.replay past .empty).get? node = some element →
        good element :=
      ih fun node change hmem ↦ hcalls node change (List.mem_append_left _ hmem)
    rw [Sink.replay_append_singleton, ← Sink.snd_send] at h
    obtain hsame | ⟨parent, role, classes, -, -, hcreate⟩ | ⟨target, change, rfl, -, hedit⟩ :=
      send_cases call (sink.replay past .empty)
    · rw [hsame] at h
      exact hpast h
    · rw [hcreate] at h
      obtain ⟨-, rfl⟩ | ⟨before, hbefore, ⟨-, rfl⟩ | ⟨-, rfl⟩⟩ := cases_of_get?_adopt h
      · exact hnew role classes
      · exact hchildren before _ (hpast hbefore)
      · exact hpast hbefore
    · rw [hedit] at h
      obtain ⟨before, hbefore, ⟨-, rfl⟩ | ⟨-, rfl⟩⟩ := cases_of_get?_modify h
      · exact hcalls target change (List.mem_append_right _ List.mem_cons_self) before
          (hpast hbefore)
      · exact hpast hbefore

/-- Calls that name data build a reachable tree, and all its attributes are data attributes. -/
theorem reachable_replay {calls : List SinkCall} (h : ∀ call ∈ calls, call.NamesData) :
    (sink.replay calls .empty).Reachable ∧ (sink.replay calls .empty).HasDataNames := by
  have hnew : ∀ role classes, (Element.new role classes).HasDataNames := fun _ _ _ hentry ↦
    absurd hentry List.not_mem_nil
  refine ⟨reachable_replay_empty calls, fun node element hget ↦ ?_⟩
  exact forall_get?_replay hnew (fun _ _ hnames ↦ hnames)
    (fun _ _ hcall _ hnames ↦ hnames.apply (h _ hcall)) hget

end ElementTree

/-- The outlines of trees that are built by calls, with data attributes only, are equal exactly when
the trees agree node by node in role, attributes and content. An outline has one line for each node
under the root, in document order. -/
theorem outline_of_replay {calls calls' : List SinkCall} (h : ∀ call ∈ calls, call.NamesData)
    (h' : ∀ call ∈ calls', call.NamesData) :
    let tree := ElementTree.sink.replay calls .empty
    let tree' := ElementTree.sink.replay calls' .empty
    (tree.outline = tree'.outline ↔
      tree.forest.map Element.shown = tree'.forest.map Element.shown) ∧
    displayed tree.outline.toList =
      ((tree.forest.levels 0).map fun (depth, element) ↦ writtenLine depth element) ∧
    (displayed tree.outline.toList).length = tree.size - 1 := by
  intro tree tree'
  have hforest : ∀ {calls : List SinkCall}, (∀ call ∈ calls, call.NamesData) →
      ∀ element ∈ (ElementTree.sink.replay calls .empty).forest.preorder, element.HasDataNames := by
    intro calls h element helement
    obtain ⟨node, hget⟩ := ElementTree.exists_get?_of_mem_forest helement
    exact (ElementTree.reachable_replay h).2 hget
  have hlines : displayed tree.outline.toList =
      (tree.forest.levels 0).map fun (depth, element) ↦ writtenLine depth element :=
    ElementTree.displayed_outlineOf (hforest h) 0
  refine ⟨⟨?_, fun heq ↦ ElementTree.outlineOf_congr heq 0⟩, hlines, ?_⟩
  · intro heq
    have hchars := congrArg (fun outline ↦ outline.toList ++ []) heq
    exact (ElementTree.outlineOf_append_inj (hforest h) (hforest h') (.inl rfl) (.inl rfl) hchars).1
  · have hlevels : (tree.forest.levels 0).length = tree.forest.size := by
      rw [← Forest.length_preorder, ← tree.forest.map_snd_levels 0, List.length_map]
    have hsize : tree.forest.size + 1 = tree.size := (ElementTree.reachable_replay h).1.size_forest
    rw [hlines, List.length_map, hlevels, ← hsize, Nat.add_sub_cancel]

/-- A message whose participant and content look like lines of an outline. -/
def trickyCalls : List SinkCall :=
  [.create ElementTree.root (.message .left) [],
    .edit ⟨1⟩ (.attribute "data-participant" "A\" html=\"B"),
    .create ⟨1⟩ .content [], .edit ⟨2⟩ (.text "one\n  title \"two\"\\"), .edit ⟨7⟩ (.text "lost")]

/-- A message with the content and the title that the other one seems to have. -/
def plainCalls : List SinkCall :=
  [.create ElementTree.root (.message .left) [], .edit ⟨1⟩ (.attribute "data-participant" "A"),
    .edit ⟨1⟩ (.html "B"), .create ⟨1⟩ .content [], .edit ⟨2⟩ (.text "one"),
    .create ⟨1⟩ .title [], .edit ⟨3⟩ (.text "two")]

/-- The outlines differ, and each has a line for each node. -/
theorem outline_of_replay_trickyCalls :
    let tree := ElementTree.sink.replay trickyCalls .empty
    let tree' := ElementTree.sink.replay plainCalls .empty
    (∀ call ∈ trickyCalls, call.NamesData) ∧ (∀ call ∈ plainCalls, call.NamesData) ∧
      tree.outline ≠ tree'.outline ∧ (displayed tree.outline.toList).length = 2 ∧
      (displayed tree'.outline.toList).length = 3 := by
  intro tree tree'
  have htricky : ∀ call ∈ trickyCalls, call.NamesData := by
    simp only [trickyCalls, List.forall_mem_cons, SinkCall.NamesData, true_and]
    exact ⟨by decide, fun _ h ↦ nomatch h⟩
  have hplain : ∀ call ∈ plainCalls, call.NamesData := by
    simp only [plainCalls, List.forall_mem_cons, SinkCall.NamesData, true_and]
    exact ⟨by decide, fun _ h ↦ nomatch h⟩
  obtain ⟨hiff, -, hlength⟩ := outline_of_replay htricky hplain
  obtain ⟨-, -, hlength'⟩ := outline_of_replay hplain htricky
  have hforest : tree.forest.map Element.shown ≠ tree'.forest.map Element.shown := by
    decide +kernel
  have hsize : tree.size = 3 := by decide +kernel
  have hsize' : tree'.size = 4 := by decide +kernel
  exact ⟨htricky, hplain, hiff.not.mpr hforest, by rw [hlength, hsize], by rw [hlength', hsize']⟩

end Colloquy
