import Colloquy.Proofs.Parentage

/-!
# The record of the calls

An element tree holds nothing but the record of the calls that it has accepted. An element has as
many attributes and styles as names were set on it, each where its name was first set and with the
value it was last set to; its content is the text that was last set and the HTML appended since; its
children are the nodes created below it. So a call shows in the element that it names and nowhere
else.
-/

namespace Colloquy

variable {σ : Type}

/-! ### Records -/

/-- A call that was accepted, with its answer. -/
structure AnsweredCall where
  call : SinkCall
  answer : call.Answer

namespace AnsweredCall

/-- The node that the call created, if it created one. -/
def created? : AnsweredCall → Option NodeId
  | ⟨.create _ _ _, node⟩ => some node
  | ⟨.edit _ _, _⟩ => none

/-- The node that the call created below a parent, if it did that. -/
def childOf? (parent : NodeId) : AnsweredCall → Option NodeId
  | ⟨.create named _ _, node⟩ => if named = parent then some node else none
  | ⟨.edit _ _, _⟩ => none

/-- The change that the call made to a node, if it did that. -/
def editOf? (node : NodeId) : AnsweredCall → Option Edit
  | ⟨.create _ _ _, _⟩ => none
  | ⟨.edit named change, _⟩ => if named = node then some change else none

end AnsweredCall

/-- The nodes that a record of calls creates, in order. -/
def createdIn (record : List AnsweredCall) : List NodeId := record.filterMap AnsweredCall.created?

/-- The nodes that a record of calls creates below a parent, in order. -/
def childrenIn (record : List AnsweredCall) (parent : NodeId) : List NodeId :=
  record.filterMap (AnsweredCall.childOf? parent)

/-- The changes that a record of calls makes to a node, in order. -/
def editsIn (record : List AnsweredCall) (node : NodeId) : List Edit :=
  record.filterMap (AnsweredCall.editOf? node)

/-- The calls that a sink accepts, of those that it is sent one after the other. -/
def Sink.record (sink : Sink σ) : List SinkCall → σ → List AnsweredCall
  | [], _ => []
  | call :: later, state =>
    (sink.answer call state).1.toOption.toList.map (AnsweredCall.mk call) ++
      sink.record later (sink.answer call state).2

namespace Edit

/-- The plain text that the change sets, if it sets one. -/
def text? : Edit → Option String
  | .text shown => some shown
  | _ => none

/-- The HTML that the change appends, if it appends some. -/
def html? : Edit → Option String
  | .html appended => some appended
  | _ => none

/-- The attribute that the change sets, with its value, if it sets one. -/
def attribute? : Edit → Option (String × String)
  | .attribute name value => some (name, value)
  | _ => none

/-- The style that the change sets, with its value, if it sets one. -/
def style? : Edit → Option (String × String)
  | .style property value => some (property, value)
  | _ => none

end Edit

/-- The properties hold what some settings, made one after the other, amount to. -/
structure Properties.Records (properties settings : Properties) : Prop where
  /-- Each name that was set is there once, in the order of first setting. -/
  names_eq : properties.map Prod.fst = (settings.map Prod.fst).eraseDups
  /-- A name has the value that it was last set to. -/
  get?_eq : ∀ name, properties.get? name = (settings.reverse.find? (·.1 = name)).map Prod.snd

/-- What some changes have written in the end: the last text, escaped, and the HTML appended after
that, as it is. -/
def writtenBy (edits : List Edit) : String :=
  (edits.reverse.findSome? Edit.text?).elim "" Html.escapeText ++
    String.join ((edits.reverse.takeWhile (·.text?.isNone)).reverse.filterMap Edit.html?)

/-- The element holds what some changes, made one after the other, amount to. -/
structure Element.Records (element : Element) (edits : List Edit) : Prop where
  attributes : element.attributes.Records (edits.filterMap Edit.attribute?)
  styles : element.styles.Records (edits.filterMap Edit.style?)
  /-- The content is written as the changes have written it. -/
  written_eq : element.content.elim "" Content.toHtml = writtenBy edits

namespace ElementTree

/-- The tree holds what a record of calls amounts to. -/
structure Records (tree : ElementTree) (record : List AnsweredCall) : Prop where
  /-- The elements are the root and those created since, in the order of their creation. -/
  created : root :: createdIn record = (List.range tree.size).map NodeId.mk
  /-- The calls name elements of the tree. -/
  named : ∀ accepted ∈ record, accepted.call.node.index < tree.size
  /-- An element holds what the changes to it amount to. -/
  element : ∀ ⦃node element⦄, tree.get? node = some element →
    element.Records (editsIn record node)
  /-- The children of an element are the nodes created below it, in the order of their creation. -/
  children_eq : ∀ ⦃node element⦄, tree.get? node = some element →
    element.children = childrenIn record node

end ElementTree

/-! ### Settings -/

/-- Nothing is recorded of no settings. -/
theorem Properties.records_nil : Records [] [] := ⟨rfl, fun _ ↦ rfl⟩

/-- Setting a name leaves the names that are there, and adds the name if it is not there yet. -/
theorem Properties.map_fst_set (properties : Properties) (name value : String) :
    (properties.set name value).map Prod.fst =
      if name ∈ properties.map Prod.fst then properties.map Prod.fst
      else properties.map Prod.fst ++ [name] := by
  induction properties with
  | nil => rfl
  | cons entry rest ih =>
    rw [set]
    by_cases hname : entry.1 = name
    · rw [if_pos hname, List.map_cons, List.map_cons, hname, if_pos List.mem_cons_self]
    · rw [if_neg hname, List.map_cons, ih, List.map_cons]
      simp only [List.mem_cons, Ne.symm hname, false_or]
      split <;> rfl

/-- One setting more is recorded by making it. -/
theorem Properties.Records.set {properties settings : Properties} (h : properties.Records settings)
    (name value : String) : (properties.set name value).Records (settings ++ [(name, value)]) where
  names_eq := by
    have hmem : name ∈ properties.map Prod.fst ↔ name ∈ settings.map Prod.fst := by
      rw [h.names_eq, List.mem_eraseDups]
    rw [map_fst_set, List.map_append, List.eraseDups_append, ← h.names_eq, List.map_singleton,
      List.removeAll, List.filter_singleton]
    by_cases hold : name ∈ properties.map Prod.fst
    · rw [if_pos hold, List.elem_eq_true_of_mem (hmem.mp hold)]
      exact (List.append_nil _).symm
    · have helem : (settings.map Prod.fst).elem name = false := by
        rw [← Bool.not_eq_true, List.elem_iff]
        exact mt hmem.mpr hold
      rw [if_neg hold, helem]
      rfl
  get?_eq := by
    intro other
    rw [get?_set, h.get?_eq, List.reverse_append, List.reverse_singleton, List.singleton_append,
      List.find?_cons]
    by_cases hname : other = name
    · rw [if_pos hname, decide_eq_true hname.symm]
      rfl
    · rw [if_neg hname, decide_eq_false (Ne.symm hname)]

/-! ### Changes -/

/-- A text replaces all that was written before. -/
theorem writtenBy_text (edits : List Edit) (shown : String) :
    writtenBy (edits ++ [.text shown]) = Html.escapeText shown := by
  rw [writtenBy, List.reverse_concat']
  exact String.append_empty

/-- A change that sets no text adds its HTML, if it has some. -/
theorem writtenBy_of_text?_eq_none (edits : List Edit) {change : Edit} (h : change.text? = none) :
    writtenBy (edits ++ [change]) = writtenBy edits ++ String.join change.html?.toList := by
  have hlater : (change :: edits.reverse).takeWhile (·.text?.isNone) =
      change :: edits.reverse.takeWhile (·.text?.isNone) :=
    List.takeWhile_cons_of_pos (Option.isNone_iff_eq_none.mpr h)
  have hjoin : String.join ([change].filterMap Edit.html?) = String.join change.html?.toList := by
    cases change <;> rfl
  rw [writtenBy, List.reverse_concat', List.findSome?_cons, h, hlater, List.reverse_cons,
    List.filterMap_append, String.join_append, hjoin, ← String.append_assoc]
  rfl

/-- A new element records no changes. -/
theorem Element.records_new (role : Role) (classes : List String) : (new role classes).Records [] :=
  ⟨Properties.records_nil, Properties.records_nil, (by decide : "" = writtenBy [])⟩

/-- One change more is recorded by making it. -/
theorem Element.Records.apply {element : Element} {edits : List Edit} (h : element.Records edits)
    (change : Edit) : (element.apply change).Records (edits ++ [change]) where
  attributes := by
    rw [List.filterMap_append]
    cases change with
    | «attribute» name value => exact h.attributes.set name value
    | _ => exact (List.append_nil _).symm ▸ h.attributes
  styles := by
    rw [List.filterMap_append]
    cases change with
    | style property value => exact h.styles.set property value
    | _ => exact (List.append_nil _).symm ▸ h.styles
  written_eq := by
    cases change with
    | text shown => exact (writtenBy_text edits shown).symm
    | html appended =>
      rw [writtenBy_of_text?_eq_none edits rfl, ← h.written_eq]
      have hjoin : String.join [appended] = appended := by simp
      exact congrArg (_ ++ ·) hjoin.symm
    | _ =>
      rw [writtenBy_of_text?_eq_none edits rfl, ← h.written_eq]
      exact String.append_empty.symm

/-! ### Trees -/

namespace Sink

/-- One call more is recorded if it is accepted. -/
theorem record_append_singleton (sink : Sink σ) (calls : List SinkCall) (call : SinkCall)
    (state : σ) :
    sink.record (calls ++ [call]) state = sink.record calls state ++
      (sink.answer call (sink.replay calls state)).1.toOption.toList.map
        (AnsweredCall.mk call) := by
  induction calls generalizing state with
  | nil => exact List.append_nil _
  | cons first rest ih =>
    have hreplay : sink.replay (first :: rest) state =
        sink.replay rest (sink.answer first state).2 := by
      rw [← snd_send]
      rfl
    rw [List.cons_append, record, ih, record, List.append_assoc, hreplay]

end Sink

variable {record : List AnsweredCall}

/-- A node that is created is a child of its parent. -/
theorem childrenIn_append_create (parent child node : NodeId) (role : Role)
    (classes : List String) :
    childrenIn (record ++ [⟨.create parent role classes, child⟩]) node =
      if node = parent then childrenIn record node ++ [child] else childrenIn record node := by
  by_cases hnode : node = parent
  · simp [childrenIn, AnsweredCall.childOf?, hnode]
  · simp [childrenIn, AnsweredCall.childOf?, hnode, Ne.symm hnode]

/-- Creating a node changes none. -/
theorem editsIn_append_create (parent child node : NodeId) (role : Role) (classes : List String) :
    editsIn (record ++ [⟨.create parent role classes, child⟩]) node = editsIn record node :=
  List.filterMap_append.trans (List.append_nil _)

/-- A change is one of the node that is changed. -/
theorem editsIn_append_edit (target node : NodeId) (change : Edit) :
    editsIn (record ++ [⟨.edit target change, ()⟩]) node =
      if node = target then editsIn record node ++ [change] else editsIn record node := by
  by_cases hnode : node = target
  · simp [editsIn, AnsweredCall.editOf?, hnode]
  · simp [editsIn, AnsweredCall.editOf?, hnode, Ne.symm hnode]

/-- Changing a node creates none. -/
theorem childrenIn_append_edit (target node : NodeId) (change : Edit) :
    childrenIn (record ++ [⟨.edit target change, ()⟩]) node = childrenIn record node :=
  List.filterMap_append.trans (List.append_nil _)

namespace ElementTree

/-- Nothing is recorded of the node that is created next. -/
theorem Records.eq_nil_of_next {tree : ElementTree} (h : tree.Records record) :
    editsIn record ⟨tree.size⟩ = [] ∧ childrenIn record ⟨tree.size⟩ = [] := by
  have hne : ∀ accepted ∈ record, accepted.call.node ≠ ⟨tree.size⟩ := fun accepted haccepted ↦
    ne_next_of_lt_size (h.named accepted haccepted)
  simp only [editsIn, childrenIn, List.filterMap_eq_nil_iff, ← forall_and]
  rintro ⟨call, answer⟩ haccepted
  cases call with
  | create named role classes => exact ⟨rfl, if_neg (hne _ haccepted)⟩
  | edit named change => exact ⟨if_neg (hne _ haccepted), rfl⟩

/-- The root alone records no calls. -/
theorem records_empty : Records .empty [] where
  created := rfl
  named := fun _ h ↦ nomatch h
  element := by
    rintro ⟨_ | index⟩ element hget <;> cases hget
    exact Element.records_new _ _
  children_eq := by
    rintro ⟨_ | index⟩ element hget <;> cases hget
    rfl

/-- Adopting an element is recorded by the call that creates it. -/
theorem Records.adopt {tree : ElementTree} (h : tree.Records record) {parent : NodeId}
    (hparent : parent.index < tree.size) (role : Role) (classes : List String) :
    (tree.adopt parent (.new role classes)).Records
      (record ++ [⟨.create parent role classes, (⟨tree.size⟩ : NodeId)⟩]) where
  created := by
    rw [createdIn, List.filterMap_append, ← createdIn, ← List.cons_append, h.created, size_adopt,
      List.range_succ, List.map_append]
    rfl
  named := by
    rw [size_adopt]
    intro accepted haccepted
    obtain hold | hnew := List.mem_append.mp haccepted
    · exact Nat.lt_succ_of_lt (h.named accepted hold)
    · rw [List.mem_singleton.mp hnew]
      exact Nat.lt_succ_of_lt hparent
  element := by
    intro node after hget
    rw [editsIn_append_create]
    obtain ⟨rfl, rfl⟩ | ⟨before, hbefore, ⟨-, rfl⟩ | ⟨-, rfl⟩⟩ := cases_of_get?_adopt hget
    · rw [h.eq_nil_of_next.1]
      exact Element.records_new role classes
    · obtain ⟨hattributes, hstyles, hwritten⟩ := h.element hbefore
      exact ⟨hattributes, hstyles, hwritten⟩
    · exact h.element hbefore
  children_eq := by
    intro node after hget
    rw [childrenIn_append_create]
    obtain ⟨rfl, rfl⟩ | ⟨before, hbefore, ⟨hnode, rfl⟩ | ⟨hnode, rfl⟩⟩ := cases_of_get?_adopt hget
    · rw [h.eq_nil_of_next.2, if_neg (ne_next_of_lt_size hparent).symm]
      rfl
    · rw [if_pos hnode, ← h.children_eq hbefore]
    · rw [if_neg hnode, h.children_eq hbefore]

/-- A change to an element is recorded by the call that makes it. -/
theorem Records.modify {tree : ElementTree} (h : tree.Records record) {node : NodeId}
    (hnode : node.index < tree.size) (change : Edit) :
    (tree.modify node (·.apply change)).Records (record ++ [⟨.edit node change, ()⟩]) where
  created := by
    rw [createdIn, List.filterMap_append, ← createdIn, size_modify, ← h.created]
    exact congrArg (root :: ·) (List.append_nil _)
  named := by
    rw [size_modify]
    intro accepted haccepted
    obtain hold | hnew := List.mem_append.mp haccepted
    · exact h.named accepted hold
    · rw [List.mem_singleton.mp hnew]
      exact hnode
  element := by
    intro other after hget
    rw [editsIn_append_edit]
    obtain ⟨before, hbefore, ⟨hother, rfl⟩ | ⟨hother, rfl⟩⟩ := cases_of_get?_modify hget
    · rw [if_pos hother]
      exact (h.element hbefore).apply change
    · rw [if_neg hother]
      exact h.element hbefore
  children_eq := by
    intro other after hget
    rw [childrenIn_append_edit]
    obtain ⟨before, hbefore, ⟨-, rfl⟩ | ⟨-, rfl⟩⟩ := cases_of_get?_modify hget
    · rw [Element.children_apply, h.children_eq hbefore]
    · exact h.children_eq hbefore

/-- The tree that calls build records those of them that are accepted. -/
theorem records_replay (calls : List SinkCall) :
    (sink.replay calls .empty).Records (sink.record calls .empty) := by
  induction calls using List.reverseRecOn with
  | nil => exact records_empty
  | append_singleton past call ih =>
    rw [Sink.replay_append_singleton, Sink.record_append_singleton]
    by_cases hnode : call.node.index < (sink.replay past .empty).size
    · cases call with
      | create parent role classes =>
        have hparent : parent.index < (sink.replay past .empty).size := hnode
        rw [answer_create hparent]
        exact ih.adopt hnode role classes
      | edit node change =>
        have htarget : node.index < (sink.replay past .empty).size := hnode
        rw [answer_edit htarget]
        exact ih.modify hnode change
    · rw [answer_of_size_le (Nat.le_of_not_lt hnode)]
      exact (List.append_nil _).symm ▸ ih

/-- A call to another node leaves an element as it is. -/
theorem get?_answer_of_ne {tree : ElementTree} {call : SinkCall} {node : NodeId} {element : Element}
    (hne : call.node ≠ node) (hget : tree.get? node = some element) :
    (sink.answer call tree).2.get? node = some element := by
  rw [← Sink.snd_send]
  obtain hsame | ⟨parent, role, classes, rfl, -, hcreate⟩ | ⟨target, change, rfl, -, hedit⟩ :=
    send_cases call tree
  · rwa [hsame]
  · have hold : node ≠ ⟨tree.size⟩ := ne_next_of_lt_size (lt_size_of_get? hget)
    have hother : node ≠ parent := Ne.symm hne
    rw [hcreate, get?_adopt, if_neg hold, if_neg hother, hget]
  · have hother : node ≠ target := Ne.symm hne
    rw [hedit, get?_modify, if_neg hother, hget]

/-! ### HTML -/

/-- HTML shows no more of an element than its opening tag and what it writes as its content. -/
theorem htmlOf_map_congr {α : Type} {f g : α → Element} {forest : Forest α}
    (h : ∀ label ∈ forest.preorder, openingTag (f label) = openingTag (g label) ∧
      (f label).content.elim "" Content.toHtml = (g label).content.elim "" Content.toHtml) :
    htmlOf (forest.map f) = htmlOf (forest.map g) := by
  induction forest with
  | nil => rfl
  | cons label children siblings ihc ihs =>
    simp only [Forest.preorder, List.forall_mem_cons, List.forall_mem_append] at h
    obtain ⟨⟨htag, hcontent⟩, hchildren, hsiblings⟩ := h
    simp only [Forest.map, htmlOf, htag, hcontent, ihc hchildren, ihs hsiblings]

/-- The HTML of a tree shows as the content of a node what is recorded as written in it. -/
theorem Records.toHtml_eq {tree : ElementTree} (h : tree.Records record) :
    tree.toHtml = htmlOf (tree.below.map fun (node, element) ↦
      element.fill (some (.html (writtenBy (editsIn record node))))) := by
  rw [toHtml, forest_eq_map_below]
  apply htmlOf_map_congr
  intro entry hentry
  exact ⟨rfl, (h.element (get?_of_mem_below hentry)).written_eq⟩

end ElementTree

/-- An element tree holds what the calls that it has accepted amount to. Of the root and of each
node that was created it holds each attribute that was set, once, in the order of first setting and
with the last value; the styles alike; and, as its children, the nodes created below it in order.
Calls to other nodes leave all of that as it is. And the HTML of a node shows, before its children,
the last text that was set, escaped, and after it the HTML appended since, as it is. -/
theorem records_of_replay (calls : List SinkCall) :
    let tree := ElementTree.sink.replay calls .empty
    let record := ElementTree.sink.record calls .empty
    (∀ node ∈ ElementTree.root :: createdIn record, ∃ element, tree.get? node = some element ∧
      element.attributes.Records ((editsIn record node).filterMap Edit.attribute?) ∧
      element.styles.Records ((editsIn record node).filterMap Edit.style?) ∧
      element.children = childrenIn record node ∧
      ∀ call : SinkCall, call.node ≠ node →
        (ElementTree.sink.answer call tree).2.get? node = some element) ∧
    tree.toHtml = ElementTree.htmlOf (tree.below.map fun (node, element) ↦
      element.fill (some (.html (writtenBy (editsIn record node))))) := by
  intro tree record
  have hrecords : tree.Records record := ElementTree.records_replay calls
  refine ⟨?_, hrecords.toHtml_eq⟩
  intro node hnode
  rw [hrecords.created, List.mem_map] at hnode
  obtain ⟨index, hindex, rfl⟩ := hnode
  obtain ⟨element, hget⟩ : ∃ element, tree.get? ⟨index⟩ = some element :=
    ElementTree.exists_get? (List.mem_range.mp hindex)
  exact ⟨element, hget, (hrecords.element hget).attributes, (hrecords.element hget).styles,
    hrecords.children_eq hget, fun _ hne ↦ ElementTree.get?_answer_of_ne hne hget⟩

/-- Calls to two nodes in turn, with a text between two pieces of HTML and a call that is
refused. -/
def interleavedCalls : List SinkCall :=
  [.create ElementTree.root .bubble [], .edit ⟨1⟩ (.attribute "data-a" "1"),
    .edit ⟨1⟩ (.html "<i>"), .create ⟨1⟩ .content [], .edit ⟨2⟩ (.text "x"),
    .edit ⟨1⟩ (.attribute "data-b" "2"), .edit ⟨3⟩ (.text "lost"), .edit ⟨1⟩ (.text "a<b"),
    .edit ⟨1⟩ (.attribute "data-a" "3"), .edit ⟨1⟩ (.html "<br>"), .create ⟨1⟩ .footer []]

/-- The first attribute keeps its place, the text replaces the HTML before it, and the refused call
leaves the third node without a text. -/
theorem records_of_replay_interleavedCalls :
    let tree := ElementTree.sink.replay interleavedCalls .empty
    (∃ element, tree.get? ⟨1⟩ = some element ∧
      element.attributes.map Prod.fst = ["data-a", "data-b"] ∧
      element.attributes.get? "data-a" = some "3" ∧ element.children = [⟨2⟩, ⟨3⟩] ∧
      (ElementTree.sink.answer (.edit ⟨2⟩ (.attribute "data-a" "4")) tree).2.get? ⟨1⟩ =
        some element) ∧
    tree.toHtml =
      "<div data-a=\"3\" data-b=\"2\">a&lt;b<br><div>x</div><div></div></div>" := by
  intro tree
  obtain ⟨hnodes, hhtml⟩ := records_of_replay interleavedCalls
  obtain ⟨element, hget, hattributes, -, hchildren, hother⟩ := hnodes ⟨1⟩ (by decide +kernel)
  refine ⟨⟨element, hget, hattributes.names_eq.trans ?_, (hattributes.get?_eq "data-a").trans ?_,
    hchildren.trans ?_, hother _ (by decide)⟩, hhtml.trans ?_⟩
  all_goals decide +kernel

end Colloquy
