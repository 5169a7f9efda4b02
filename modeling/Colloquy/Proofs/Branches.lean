import Colloquy.Proofs.Handles
import Colloquy.Proofs.Parentage

/-!
# Branches

An instruction draws one branch. Its first request creates a node below the wrapper, and every later
one names a node that is no older than that; so whatever the markdown renderer makes of its targets,
and at whichever request the drawing stops, the tree before it has not changed but for the one child
that its wrapper has gained. Of the session only the mark of a shown title changes, and that is set
before anything can fail.
-/

namespace Colloquy

variable {α β σ τ : Type}

/-- A change to an element leaves its role alone. -/
theorem Element.role_apply (element : Element) (change : Edit) :
    (element.apply change).role = element.role := by
  cases change <;> rfl

/-- A node below a bound is none above it. -/
theorem NodeId.ne_of_lt_of_le {bound : Nat} {old new : NodeId} (hold : old.index < bound)
    (hnew : bound ≤ new.index) : old ≠ new := by
  rintro rfl
  exact absurd hnew (Nat.not_le_of_lt hold)

/-! ### Branches of a tree -/

namespace ElementTree

/-- The second node is the first or is somewhere below it. -/
def IsBelow (tree : ElementTree) : NodeId → NodeId → Prop := Relation.ReflTransGen tree.IsChild

/-- From one tree to the other one branch has grown. Its first node, of the given role, is the last
child of the parent; everything new is below that node, and all else is as it was. -/
structure GrowsBranch (before after : ElementTree) (parent : NodeId) (role : Role) : Prop where
  there : parent.index < before.size
  parent_eq : after.get? parent = (before.get? parent).map fun element ↦
    { element with children := element.children ++ [⟨before.size⟩] }
  others_eq : ∀ ⦃node : NodeId⦄, node.index < before.size → node ≠ parent →
    after.get? node = before.get? node
  first : ∃ element, after.get? ⟨before.size⟩ = some element ∧ element.role = role
  isBelow : ∀ ⦃node : NodeId⦄, before.size ≤ node.index → node.index < after.size →
    after.IsBelow ⟨before.size⟩ node

variable {before after : ElementTree} {parent node : NodeId} {role : Role}

/-- What is below a node stays so when links are only added. -/
theorem IsBelow.mono {tree later : ElementTree} {upper lower : NodeId}
    (h : tree.IsBelow upper lower)
    (hlinks : ∀ parent child, tree.IsChild parent child → later.IsChild parent child) :
    later.IsBelow upper lower :=
  Relation.ReflTransGen.mono hlinks _ _ h

/-- The branch is there. -/
theorem GrowsBranch.size_lt (h : before.GrowsBranch after parent role) :
    before.size < after.size := by
  obtain ⟨element, hget, -⟩ := h.first
  exact lt_size_of_get? hget

/-- A new child is a branch. -/
theorem growsBranch_adopt (h : parent.index < before.size) (role : Role) (classes : List String) :
    before.GrowsBranch (before.adopt parent (.new role classes)) parent role where
  there := h
  parent_eq := by rw [get?_adopt, if_neg (ne_next_of_lt_size h), if_pos rfl]
  others_eq := by
    intro node hnode hne
    rw [get?_adopt, if_neg (ne_next_of_lt_size hnode), if_neg hne]
  first := ⟨_, by rw [get?_adopt, if_pos rfl], rfl⟩
  isBelow := by
    rintro ⟨index⟩ hle hlt
    rw [size_adopt] at hlt
    obtain rfl : index = before.size := Nat.le_antisymm (Nat.le_of_lt_succ hlt) hle
    exact .refl

/-- A change inside a branch is one of the branch. -/
theorem GrowsBranch.modify (h : before.GrowsBranch after parent role)
    (hnode : before.size ≤ node.index) (change : Edit) :
    before.GrowsBranch (after.modify node (·.apply change)) parent role := by
  have hold : ∀ {other : NodeId}, other.index < before.size → other ≠ node :=
    fun hother ↦ NodeId.ne_of_lt_of_le hother hnode
  constructor
  case there => exact h.there
  case parent_eq => rw [get?_modify, if_neg (hold h.there), h.parent_eq]
  case others_eq =>
    intro other hother hne
    rw [get?_modify, if_neg (hold hother), h.others_eq hother hne]
  case first =>
    obtain ⟨element, hget, hrole⟩ := h.first
    rw [get?_modify, hget]
    split
    · exact ⟨_, rfl, (element.role_apply change).trans hrole⟩
    · exact ⟨element, rfl, hrole⟩
  case isBelow =>
    intro other hle hlt
    rw [size_modify] at hlt
    apply (h.isBelow hle hlt).mono
    intro upper lower hchild
    exact (isChild_modify fun element ↦ element.children_apply change).mpr hchild

/-- A new child inside a branch is a part of the branch. -/
theorem GrowsBranch.adopt (h : before.GrowsBranch after parent role)
    (hnode : before.size ≤ node.index) (hlt : node.index < after.size) (inner : Role)
    (classes : List String) :
    before.GrowsBranch (after.adopt node (.new inner classes)) parent role := by
  have hold : ∀ {other : NodeId}, other.index < before.size → other ≠ node :=
    fun hother ↦ NodeId.ne_of_lt_of_le hother hnode
  have hnext : ∀ {other : NodeId}, other.index < before.size → other ≠ ⟨after.size⟩ :=
    fun hother ↦ ne_next_of_lt_size (hother.trans h.size_lt)
  have hlink : ∀ {upper lower}, (after.adopt node (.new inner classes)).IsChild upper lower ↔
      after.IsChild upper lower ∨ upper = node ∧ lower = ⟨after.size⟩ := isChild_adopt hlt rfl
  have hkept : ∀ {upper lower}, after.IsBelow upper lower →
      (after.adopt node (.new inner classes)).IsBelow upper lower :=
    fun hbelow ↦ hbelow.mono fun _ _ hchild ↦ hlink.mpr (.inl hchild)
  constructor
  case there => exact h.there
  case parent_eq => rw [get?_adopt, if_neg (hnext h.there), if_neg (hold h.there), h.parent_eq]
  case others_eq =>
    intro other hother hne
    rw [get?_adopt, if_neg (hnext hother), if_neg (hold hother), h.others_eq hother hne]
  case first =>
    obtain ⟨element, hget, hrole⟩ := h.first
    have hne : (⟨before.size⟩ : NodeId) ≠ ⟨after.size⟩ := ne_next_of_lt_size h.size_lt
    rw [get?_adopt, if_neg hne, hget]
    split
    · exact ⟨_, rfl, hrole⟩
    · exact ⟨element, rfl, hrole⟩
  case isBelow =>
    intro other hle hother
    rw [size_adopt, Nat.lt_succ_iff_lt_or_eq] at hother
    obtain hother | hother := hother
    · exact hkept (h.isBelow hle hother)
    · obtain ⟨index⟩ := other
      subst hother
      exact (hkept (h.isBelow hnode hlt)).tail (hlink.mpr (.inr ⟨rfl, rfl⟩))

/-- A call that names no old node leaves one branch. -/
theorem GrowsBranch.answer (h : before.GrowsBranch after parent role) {call : SinkCall}
    (hcall : before.size ≤ call.node.index) :
    before.GrowsBranch (sink.answer call after).2 parent role := by
  obtain hlt | hmissing := Nat.lt_or_ge call.node.index after.size
  · cases call with
    | create node inner classes =>
      rw [answer_create (show node.index < after.size from hlt)]
      exact h.adopt hcall hlt inner classes
    | edit node change =>
      rw [answer_edit (show node.index < after.size from hlt)]
      exact h.modify hcall change
  · rwa [answer_of_size_le hmissing]

/-- Calls that name no old node leave one branch. -/
theorem GrowsBranch.replay (h : before.GrowsBranch after parent role) {calls : List SinkCall}
    (hcalls : ∀ call ∈ calls, before.size ≤ call.node.index) :
    before.GrowsBranch (sink.replay calls after) parent role := by
  induction calls using List.reverseRecOn with
  | nil => exact h
  | append_singleton past call ih =>
    rw [List.forall_mem_append, List.forall_mem_singleton] at hcalls
    rw [Sink.replay_append_singleton]
    exact (ih hcalls.1).answer hcalls.2

/-- Calls never take a node away. -/
theorem size_le_replay (tree : ElementTree) (calls : List SinkCall) :
    tree.size ≤ (sink.replay calls tree).size := by
  induction calls using List.reverseRecOn with
  | nil => exact Nat.le_refl _
  | append_singleton past call ih =>
    rw [Sink.replay_append_singleton, ← Sink.snd_send]
    obtain hsame | ⟨_, _, _, -, -, hcreate⟩ | ⟨_, _, -, -, hedit⟩ :=
      send_cases call (sink.replay past tree)
    · rwa [hsame]
    · rw [hcreate, size_adopt]
      exact Nat.le_succ_of_le ih
    · rwa [hedit, size_modify]

end ElementTree

/-! ### Renderers that stay in their target -/

/-- Asked to render into a node of the tree, the renderer makes calls that name this node or one
that is newer than the tree, whether it fails in the end or not. -/
def MarkdownRenderer.StaysInTarget (markdown : MarkdownRenderer σ) (tree : σ → ElementTree)
    (context : MarkdownContext) : Prop :=
  ∀ ⦃source target state⦄, target.index < (tree state).size → ∃ calls : List SinkCall,
    (∀ call ∈ calls, call.node = target ∨ (tree state).size ≤ call.node.index) ∧
    tree (markdown source target context state).2 = ElementTree.sink.replay calls (tree state)

/-! ### Drawings that keep to their own nodes -/

namespace Drawing

/-- No request names a node older than the floor, as long as no new node is. -/
def KeepsAbove (floor : Nat) (post : α → Prop) : Drawing α → Prop
  | .done result => post result
  | .create parent _ _ next =>
    floor ≤ parent.index ∧ ∀ node : NodeId, floor ≤ node.index → (next node).KeepsAbove floor post
  | .edit node _ next => floor ≤ node.index ∧ next.KeepsAbove floor post
  | .markdown _ target next => floor ≤ target.index ∧ next.KeepsAbove floor post

/-- The first request creates a node of the role below the parent, and none after it names a node
that is older than that one. -/
def StartsBranch (parent : NodeId) (role : Role) (post : Nat → α → Prop) (drawing : Drawing α) :
    Prop :=
  ∃ classes next, drawing = .create parent role classes next ∧
    ∀ node : NodeId, (next node).KeepsAbove node.index (post node.index)

/-- The drawing asks for no markdown. -/
def Unaided : Drawing α → Prop
  | .done _ => True
  | .create _ _ _ next => ∀ node, (next node).Unaided
  | .edit _ _ next => next.Unaided
  | .markdown .. => False

variable {floor : Nat} {parent : NodeId} {role : Role}

/-- Drawings one after the other keep above the floor if each does. -/
theorem KeepsAbove.bind {mid : α → Prop} {post : β → Prop} {drawing : Drawing α}
    {f : α → Drawing β} (h : drawing.KeepsAbove floor mid)
    (hf : ∀ result, mid result → (f result).KeepsAbove floor post) :
    (drawing >>= f).KeepsAbove floor post := by
  change (drawing.bind f).KeepsAbove floor post
  induction drawing with
  | done result => exact hf result h
  | create parent role classes next ih => exact ⟨h.1, fun node hnode ↦ ih node (h.2 node hnode)⟩
  | edit node change next ih => exact ⟨h.1, ih h.2⟩
  | markdown source target next ih => exact ⟨h.1, ih h.2⟩

/-- A branch may be gone on with above its first node. -/
theorem StartsBranch.bind {mid : Nat → α → Prop} {post : Nat → β → Prop} {drawing : Drawing α}
    {f : α → Drawing β} (h : drawing.StartsBranch parent role mid)
    (hf : ∀ floor result, mid floor result → (f result).KeepsAbove floor (post floor)) :
    (drawing >>= f).StartsBranch parent role post := by
  obtain ⟨classes, next, rfl, hnext⟩ := h
  exact ⟨classes, _, rfl, fun node ↦ (hnext node).bind (hf node.index)⟩

/-- A new child starts a branch. -/
theorem startsBranch_newChild (parent : NodeId) (role : Role) (classes : List String) :
    (newChild parent role classes).StartsBranch parent role fun floor node ↦
      floor ≤ node.index :=
  ⟨classes, .done, rfl, fun node ↦ Nat.le_refl node.index⟩

/-- A new child of a node above the floor is above it. -/
theorem keepsAbove_newChild (h : floor ≤ parent.index) (role : Role) (classes : List String) :
    (newChild parent role classes).KeepsAbove floor fun node ↦ floor ≤ node.index :=
  ⟨h, fun _ hnode ↦ hnode⟩

/-- A change names its node alone. -/
theorem keepsAbove_change {node : NodeId} (h : floor ≤ node.index) (edit : Edit) :
    (change node edit).KeepsAbove floor fun _ ↦ True :=
  ⟨h, trivial⟩

/-- A loop keeps above the floor if its body does. -/
theorem keepsAbove_forM {ι : Type} {f : ι → Drawing Unit}
    (h : ∀ item, (f item).KeepsAbove floor fun _ ↦ True) (items : List ι) :
    (items.forM f).KeepsAbove floor fun _ ↦ True := by
  induction items with
  | nil => trivial
  | cons item rest ih =>
    rw [List.forM_eq_forM, List.forM_cons]
    exact (h item).bind fun _ _ ↦ ih

/-- Drawings one after the other are unaided if each is. -/
theorem Unaided.bind {drawing : Drawing α} {f : α → Drawing β} (h : drawing.Unaided)
    (hf : ∀ result, (f result).Unaided) : (drawing >>= f).Unaided := by
  change (drawing.bind f).Unaided
  induction drawing with
  | done result => exact hf result
  | create parent role classes next ih => exact fun node ↦ ih node (h node)
  | edit node change next ih => exact ih h
  | markdown source target next ih => exact h.elim

/-- A loop is unaided if its body is. -/
theorem unaided_forM {ι : Type} {f : ι → Drawing Unit} (h : ∀ item, (f item).Unaided)
    (items : List ι) : (items.forM f).Unaided := by
  induction items with
  | nil => trivial
  | cons item rest ih =>
    rw [List.forM_eq_forM, List.forM_cons]
    exact (h item).bind fun _ ↦ ih

section Performing

variable {sink : Sink σ} {markdown : MarkdownRenderer σ} {context : MarkdownContext}
  {tree : σ → ElementTree}

/-- Going on with a drawing goes on with its performance, unless that has failed. -/
theorem perform_bind (drawing : Drawing α) (f : α → Drawing β) (state : σ) :
    (drawing >>= f).perform sink markdown context state =
      match drawing.perform sink markdown context state with
      | (.ok result, state') => (f result).perform sink markdown context state'
      | (.error error, state') => (.error error, state') := by
  change (drawing.bind f).perform sink markdown context state = _
  induction drawing generalizing state with
  | done result => rfl
  | create parent role classes next ih =>
    rw [bind, perform_create, perform_create]
    rcases sink.create parent role classes state with ⟨_ | node, state'⟩
    · rfl
    · exact ih node state'
  | edit node change next ih =>
    rw [bind, perform_edit, perform_edit]
    rcases sink.edit node change state with ⟨_ | ⟨⟩, state'⟩
    · rfl
    · exact ih state'
  | markdown source target next ih =>
    rw [bind, perform_markdown, perform_markdown]
    rcases markdown source target context state with ⟨_ | ⟨⟩, state'⟩
    · rfl
    · exact ih state'

/-- A grounded drawing that asks for no markdown comes to its end. -/
theorem Grounded.exists_ok_of_unaided (hsink : sink.Carries tree) {post : α → Nat → Prop}
    {drawing : Drawing α} {state : σ} (h : drawing.Grounded post (tree state).size)
    (hunaided : drawing.Unaided) :
    ∃ result state', drawing.perform sink markdown context state = (.ok result, state') := by
  induction drawing generalizing state with
  | done result => exact ⟨result, state, rfl⟩
  | create parent role classes next ih =>
    obtain ⟨hparent, hnext⟩ := h
    obtain ⟨after, hcreate, htree⟩ := hsink.exists_create hparent role classes
    rw [← ElementTree.size_adopt _ parent (.new role classes), ← htree] at hnext
    rw [perform_create, hcreate]
    exact ih _ hnext (hunaided _)
  | edit node change next ih =>
    obtain ⟨hnode, hnext⟩ := h
    obtain ⟨after, hedit, htree⟩ := hsink.exists_edit hnode change
    rw [← ElementTree.size_modify _ node (·.apply change), ← htree] at hnext
    rw [perform_edit, hedit]
    exact ih hnext hunaided
  | markdown source target next ih => exact hunaided.elim

variable {before : ElementTree} {wrapper : NodeId} {branch : Role}

/-- A drawing that keeps above the size of an old tree draws inside the branch that has grown since,
wherever it stops. -/
theorem KeepsAbove.growsBranch (hsink : sink.Carries tree)
    (hmarkdown : markdown.StaysInTarget tree context) {post : α → Prop} {goal : α → Nat → Prop}
    {drawing : Drawing α} {state : σ} (h : drawing.KeepsAbove before.size post)
    (hground : drawing.Grounded goal (tree state).size)
    (hbranch : before.GrowsBranch (tree state) wrapper branch) :
    before.GrowsBranch (tree (drawing.perform sink markdown context state).2) wrapper branch := by
  induction drawing generalizing state with
  | done result => exact hbranch
  | create parent role classes next ih =>
    obtain ⟨after, hcreate, htree⟩ := hsink.exists_create hground.1 role classes
    have hnext := hground.2
    rw [← ElementTree.size_adopt _ parent (.new role classes), ← htree] at hnext
    rw [perform_create, hcreate]
    apply ih _ (h.2 _ (Nat.le_of_lt hbranch.size_lt)) hnext
    rw [htree]
    exact hbranch.adopt h.1 hground.1 role classes
  | edit node change next ih =>
    obtain ⟨after, hedit, htree⟩ := hsink.exists_edit hground.1 change
    have hnext := hground.2
    rw [← ElementTree.size_modify _ node (·.apply change), ← htree] at hnext
    rw [perform_edit, hedit]
    apply ih h.2 hnext
    rw [htree]
    exact hbranch.modify h.1 change
  | markdown source target next ih =>
    obtain ⟨calls, hcalls, htree⟩ := @hmarkdown source target state hground.1
    have hlater : before.GrowsBranch (tree (markdown source target context state).2) wrapper
        branch := by
      rw [htree]
      apply hbranch.replay
      intro call hcall
      obtain htarget | hnew := hcalls call hcall
      · exact htarget ▸ h.1
      · exact Nat.le_trans (Nat.le_of_lt hbranch.size_lt) hnew
    have hsize : (tree state).size ≤ (tree (markdown source target context state).2).size := by
      rw [htree]
      exact (tree state).size_le_replay calls
    rw [perform_markdown]
    rcases hrun : markdown source target context state with ⟨error | ⟨⟩, after⟩ <;>
      rw [hrun] at hlater hsize
    · exact hlater
    · exact ih h.2 (hground.2 _ hsize) hlater

/-- A drawing that starts a branch below a node that is there draws that branch and nothing else,
wherever it stops. -/
theorem StartsBranch.growsBranch (hsink : sink.Carries tree)
    (hmarkdown : markdown.StaysInTarget tree context) {post : Nat → α → Prop}
    {goal : α → Nat → Prop} {drawing : Drawing α} {state : σ}
    (h : drawing.StartsBranch parent role post)
    (hground : drawing.Grounded goal (tree state).size) :
    (tree state).GrowsBranch (tree (drawing.perform sink markdown context state).2) parent
      role := by
  obtain ⟨classes, next, rfl, hnext⟩ := h
  obtain ⟨hparent, hlater⟩ := hground
  obtain ⟨after, hcreate, htree⟩ := hsink.exists_create hparent role classes
  rw [← ElementTree.size_adopt _ parent (.new role classes), ← htree] at hlater
  rw [perform_create, hcreate]
  apply (hnext _).growsBranch hsink hmarkdown hlater
  rw [htree]
  exact ElementTree.growsBranch_adopt hparent role classes

/-- A drawing that starts a branch below a missing node is refused at once. -/
theorem StartsBranch.refused {markdown : MarkdownRenderer (τ × ElementTree)}
    {post : Nat → α → Prop} {drawing : Drawing α} (h : drawing.StartsBranch parent role post)
    {start : ElementTree} (hparent : start.size ≤ parent.index) (memory : τ) :
    drawing.perform (ElementTree.sink.beside τ) markdown context (memory, start) =
      (.error (.unknownNode parent), (memory, start)) := by
  obtain ⟨classes, next, rfl, -⟩ := h
  have hcreate : (ElementTree.sink.beside τ).create parent role classes (memory, start) =
      (.error (.unknownNode parent), (memory, start)) := by
    have hanswer : ElementTree.sink.create parent role classes start =
        (.error (.unknownNode parent), start) :=
      @ElementTree.answer_of_size_le start (.create parent role classes) hparent
    simp only [Sink.beside, Action.onSecond, hanswer]
  rw [perform_create, hcreate]

end Performing

end Drawing

open Drawing

/-! ### Single instructions -/

section

variable {floor : Nat} {parent : NodeId}

/-- A text is drawn above the floor if its parent is above it. -/
theorem keepsAbove_drawText (h : floor ≤ parent.index) (role : Role) (className text : String)
    (markdown : Bool) :
    (drawText parent role className text markdown).KeepsAbove floor
      fun node ↦ floor ≤ node.index := by
  cases markdown with
  | false => exact ⟨h, fun _ hnode ↦ ⟨hnode, hnode⟩⟩
  | true => exact ⟨h, fun _ hnode ↦ ⟨hnode, hnode⟩⟩

/-- A box above the floor is filled above it. -/
theorem keepsAbove_fillBubble {bubble : NodeId} (h : floor ≤ bubble.index)
    (toggles : MarkdownToggles) (message : MessageInstruction) (showsTitle : Bool) :
    (fillBubble bubble toggles message showsTitle).KeepsAbove floor fun _ ↦ True := by
  have hcontent : (do
      let _ ← drawText bubble .content Classes.messageContent message.content toggles.content
      pure () : Drawing Unit).KeepsAbove floor fun _ ↦ True :=
    (keepsAbove_drawText h _ _ _ _).bind fun _ _ ↦ trivial
  cases showsTitle with
  | false => exact hcontent
  | true => exact (keepsAbove_drawText h _ _ _ _).bind fun _ _ ↦ hcontent

/-- A text is a branch of its own. -/
theorem startsBranch_drawText (parent : NodeId) (role : Role) (className text : String)
    (markdown : Bool) :
    (drawText parent role className text markdown).StartsBranch parent role fun _ _ ↦ True := by
  cases markdown with
  | false => exact ⟨_, _, rfl, fun node ↦ ⟨Nat.le_refl node.index, trivial⟩⟩
  | true => exact ⟨_, _, rfl, fun node ↦ ⟨Nat.le_refl node.index, trivial⟩⟩

/-- The frame of a message starts a branch, and its box is in that. -/
theorem startsBranch_drawFrame (wrapper : NodeId) (presentation : Presentation)
    (message : MessageInstruction) :
    (drawFrame wrapper presentation message).StartsBranch wrapper (.message message.side)
      fun floor box ↦ floor ≤ box.index := by
  apply (startsBranch_newChild wrapper _ _).bind
  intro floor outer houter
  have hattributes : (message.attributes.forM fun entry ↦
      change outer (.attribute entry.1 entry.2)).KeepsAbove floor fun _ ↦ True :=
    keepsAbove_forM (fun _ ↦ keepsAbove_change houter _) _
  apply hattributes.bind
  intro _ _
  apply (keepsAbove_newChild houter _ _).bind
  intro box hbox
  exact (keepsAbove_change hbox _).bind fun _ _ ↦ hbox

/-- The frame of a message needs no markdown. -/
theorem unaided_drawFrame (wrapper : NodeId) (presentation : Presentation)
    (message : MessageInstruction) : (drawFrame wrapper presentation message).Unaided := by
  intro outer
  have hchange : ∀ entry : String × String, (change outer (.attribute entry.1 entry.2)).Unaided :=
    fun _ ↦ trivial
  apply (unaided_forM hchange message.attributes).bind
  intro _ box
  trivial

/-- A comment is a branch. -/
theorem startsBranch_drawComment (wrapper : NodeId) (presentation : Presentation)
    (content : String) :
    (drawComment wrapper presentation content).StartsBranch wrapper .comment
      fun _ _ ↦ True := by
  apply (startsBranch_newChild wrapper _ _).bind
  intro floor outer houter
  apply (keepsAbove_drawText houter _ _ _ _).bind
  intro body hbody
  exact keepsAbove_change hbody _

/-- A row of dots is a branch. -/
theorem startsBranch_drawDelimiter (wrapper : NodeId) :
    (drawDelimiter wrapper).StartsBranch wrapper .delimiter fun _ _ ↦ True := by
  apply (startsBranch_newChild wrapper _ _).bind
  intro floor outer houter
  apply (keepsAbove_newChild houter _ _).bind
  intro row hrow
  apply keepsAbove_forM
  intro _
  exact (keepsAbove_newChild hrow _ _).bind fun _ _ ↦ trivial

/-- A line of no known shape is a branch. -/
theorem startsBranch_drawUnparsed (wrapper : NodeId) (content : String) :
    (drawUnparsed wrapper content).StartsBranch wrapper .unparsed fun _ _ ↦ True := by
  apply (startsBranch_newChild wrapper _ _).bind
  intro floor node hnode
  exact keepsAbove_change hnode _

end

/-- The role of the outermost node that is drawn for an instruction. -/
def Instruction.role : Instruction → Role
  | .message instruction => .message instruction.side
  | .comment _ => .comment
  | .delimiter => .delimiter
  | .unparsed _ => .unparsed

namespace Session

/-- The session once the instruction is drawn: a message that is drawn under the mode `first` leaves
the mark of a shown title with its side, if the title that the side has by then is not empty. -/
def noting (session : Session) : Instruction → Session
  | .message message =>
    { session with
      participants := session.participants.modify message.side fun participant ↦
        { participant with
          renderedOnce := participant.renderedOnce ||
            (session.presentation.titleMode == .first && participant.title != "") } }
  | _ => session

/-- A title that is not shown is empty, or shown already, or not to be shown once only. -/
theorem afterMessage_eq_noting (session : Session) (message : MessageInstruction) :
    session.afterMessage message.side session.presentation.titleMode =
      session.noting (.message message) := by
  have hmark : ∀ (participant : Participant) (mode : TitleMode),
      participant.afterMessage mode =
        { participant with
          renderedOnce :=
            participant.renderedOnce || (mode == .first && participant.title != "") } := by
    rintro ⟨title, renderedOnce, enforcedId⟩ mode
    cases mode <;> cases renderedOnce <;> by_cases htitle : title = "" <;>
      simp [Participant.afterMessage, Participant.showsTitle, htitle]
  simp only [Session.afterMessage, noting, hmark]

/-- An instruction is drawn as one branch below the wrapper. -/
theorem startsBranch_draw (session : Session) (wrapper : NodeId) (instruction : Instruction) :
    (session.draw wrapper instruction).StartsBranch wrapper instruction.role fun _ _ ↦ True := by
  cases instruction with
  | message message =>
    refine (startsBranch_drawFrame wrapper session.presentation message).bind ?_
    intro floor box hbox
    exact (keepsAbove_fillBubble hbox _ _ _).bind fun _ _ ↦ trivial
  | comment content =>
    refine (startsBranch_drawComment wrapper session.presentation content).bind ?_
    exact fun _ _ _ ↦ trivial
  | delimiter =>
    refine (startsBranch_drawDelimiter wrapper).bind ?_
    exact fun _ _ _ ↦ trivial
  | unparsed content =>
    refine (startsBranch_drawUnparsed wrapper content).bind ?_
    exact fun _ _ _ ↦ trivial

/-- An instruction is drawn below a wrapper that is there. -/
theorem grounded_draw {wrapper : NodeId} {size : Nat} (h : wrapper.index < size)
    (session : Session) (instruction : Instruction) :
    (session.draw wrapper instruction).Grounded (fun _ _ ↦ True) size := by
  cases instruction with
  | message message =>
    apply (grounded_drawFrame h _ _).bind
    intro box _ _ hbox
    exact (grounded_fillBubble hbox _ _ _).bind fun _ _ _ _ ↦ trivial
  | comment content => exact (grounded_drawComment h _ _).bind fun _ _ _ _ ↦ trivial
  | delimiter => exact (grounded_drawDelimiter h).bind fun _ _ _ _ ↦ trivial
  | unparsed content => exact (grounded_drawUnparsed h _).bind fun _ _ _ _ ↦ trivial

variable {sink : Sink σ} {markdown : MarkdownRenderer σ} {context : MarkdownContext}
  {wrapper : NodeId}

/-- Dispatching an instruction performs its drawing, with the session kept apart. -/
theorem dispatch_eq_draw (session : Session) (instruction : Instruction) (state : σ) :
    let drawn := (session.draw wrapper instruction).perform sink markdown context state
    let run := session.dispatch sink markdown context wrapper instruction state
    run.1 = drawn.1.map Prod.snd ∧ run.2.2 = drawn.2 := by
  intro drawn run
  cases instruction with
  | message message =>
    have hdrawn : drawn = (drawFrame wrapper session.presentation message >>= fun box ↦
        fillBubble box session.presentation.markdown message
            (session.showsTitle message.side session.presentation.titleMode) >>= fun _ ↦
          pure (session.afterMessage message.side session.presentation.titleMode, some box)).perform
        sink markdown context state := rfl
    simp only [hdrawn, run, dispatch, perform_bind]
    rcases (drawFrame wrapper session.presentation message).perform sink markdown context state with
      ⟨error | box, framed⟩
    · exact ⟨rfl, rfl⟩
    · simp only
      rcases (fillBubble box session.presentation.markdown message (session.showsTitle message.side
        session.presentation.titleMode)).perform sink markdown context framed with
        ⟨error | _, filled⟩ <;>
      exact ⟨rfl, rfl⟩
  | comment content => exact ⟨rfl, rfl⟩
  | delimiter => exact ⟨rfl, rfl⟩
  | unparsed content => exact ⟨rfl, rfl⟩

/-- Below a wrapper that is there, dispatching an instruction leaves the session with the showing of
a title on record, even when the drawing stops. -/
theorem session_dispatch {tree : σ → ElementTree} (hsink : sink.Carries tree) {state : σ}
    (hwrapper : wrapper.index < (tree state).size) (session : Session) (instruction : Instruction) :
    (session.dispatch sink markdown context wrapper instruction state).2.1 =
      session.noting instruction := by
  cases instruction with
  | message message =>
    -- The frame is drawn without markdown, so nothing keeps the title from being noted.
    have hframe : ∃ box framed, (drawFrame wrapper session.presentation message).perform sink
        markdown context state = (.ok box, framed) :=
      (grounded_drawFrame hwrapper _ _).exists_ok_of_unaided hsink (unaided_drawFrame _ _ _)
    obtain ⟨box, framed, hframe⟩ := hframe
    simp only [dispatch, hframe]
    exact session.afterMessage_eq_noting message
  | comment content => rfl
  | delimiter => rfl
  | unparsed content => rfl

/-- Below a missing wrapper nothing is drawn, and the session is as it was. -/
theorem dispatch_refused {markdown : MarkdownRenderer (τ × ElementTree)} {start : ElementTree}
    (h : start.size ≤ wrapper.index) (memory : τ) (session : Session) (instruction : Instruction) :
    session.dispatch (ElementTree.sink.beside τ) markdown context wrapper instruction
      (memory, start) = (.error (.unknownNode wrapper), session, (memory, start)) := by
  have hrefused : (session.draw wrapper instruction).perform (ElementTree.sink.beside τ) markdown
      context (memory, start) = (.error (.unknownNode wrapper), (memory, start)) :=
    (session.startsBranch_draw wrapper instruction).refused h memory
  cases instruction with
  | message message =>
    simp only [dispatch, (startsBranch_drawFrame wrapper session.presentation message).refused h]
  | comment content => simp only [dispatch, hrefused, Except.map]
  | delimiter => simp only [dispatch, hrefused, Except.map]
  | unparsed content => simp only [dispatch, hrefused, Except.map]

end Session

/-- Dispatching an instruction touches only what it must, whether it succeeds or fails. Below a
missing wrapper it is refused and changes nothing. Below any other it adds one branch, and of the
session it changes no more than the mark of a shown title. A footer is one branch below its box.
Neither the session nor the tree need have anything to do with the instruction, and the markdown
renderer may have a memory, may add nodes below its target, and may fail. -/
theorem growsBranch_dispatch {markdown : MarkdownRenderer (τ × ElementTree)}
    {context : MarkdownContext} (hmarkdown : markdown.StaysInTarget Prod.snd context)
    (start : ElementTree) (memory : τ) (session : Session) (wrapper : NodeId)
    (instruction : Instruction) :
    let sink := ElementTree.sink.beside τ
    let run := session.dispatch sink markdown context wrapper instruction (memory, start)
    (start.size ≤ wrapper.index →
      run = (.error (.unknownNode wrapper), session, (memory, start))) ∧
    (wrapper.index < start.size →
      start.GrowsBranch run.2.2.2 wrapper instruction.role ∧ run.2.1 = session.noting instruction) ∧
    ∀ (bubble : NodeId) (content : String) (rendered : Bool),
      let footing := (drawFooter bubble content rendered).perform sink markdown context
        (memory, start)
      (start.size ≤ bubble.index → footing = (.error (.unknownNode bubble), (memory, start))) ∧
      (bubble.index < start.size → start.GrowsBranch footing.2.2 bubble .footer) := by
  intro sink run
  have hsink : sink.Carries Prod.snd := ElementTree.sink_carries.beside
  refine ⟨fun hmissing ↦ Session.dispatch_refused hmissing memory session instruction, ?_, ?_⟩
  · intro hwrapper
    have hground : (session.draw wrapper instruction).Grounded (fun _ _ ↦ True)
        (memory, start).2.size := Session.grounded_draw hwrapper session instruction
    refine ⟨?_, Session.session_dispatch hsink hwrapper session instruction⟩
    rw [(session.dispatch_eq_draw instruction (memory, start)).2]
    exact (session.startsBranch_draw wrapper instruction).growsBranch hsink hmarkdown hground
  · intro bubble content rendered footing
    have hfooter := startsBranch_drawText bubble .footer Classes.messageFooter content rendered
    constructor
    · intro hmissing
      exact hfooter.refused hmissing memory
    · intro hbubble
      have hground : (drawFooter bubble content rendered).Grounded
          (fun node later ↦ node.index < later) (memory, start).2.size :=
        grounded_drawText hbubble _ _ _ _
      exact hfooter.growsBranch hsink hmarkdown hground

/-- A renderer that counts its requests, leaves a node below the target and fails. -/
def quitter : MarkdownRenderer (Nat × ElementTree) := fun _ target _ (count, tree) ↦
  (.error (.markdown "no more"),
    (count + 1, ElementTree.sink.replay [.create target .comment [], .edit target (.html "<p>")]
      tree))

/-- A session in which the left side has a title that has not been shown. -/
def fondSession : Session :=
  .ofConfig { Config.default with
    titles := ⟨"Ann", "", ""⟩, presentation.markdown := ⟨true, false, false, false⟩ }

/-- A message that says another title than the session does. -/
def foreignMessage : Instruction :=
  .message ⟨.left, "hi", "Bob", some "7", none, false, ⟨0, 0⟩⟩

/-- The drawing stops at the title, which is on record by then: there is a new branch with a
wrapper, a box, a title and what the renderer has left, and a title may be shown no second time. -/
theorem growsBranch_dispatch_foreignMessage :
    let run := fondSession.dispatch (ElementTree.sink.beside Nat) quitter ⟨""⟩ ⟨1⟩ foreignMessage
      (0, notedTree)
    quitter.StaysInTarget Prod.snd ⟨""⟩ ∧ run.1 = .error (.markdown "no more") ∧
      notedTree.GrowsBranch run.2.2.2 ⟨1⟩ (.message .left) ∧
      (notedTree.size, run.2.2.2.size) = (2, 6) ∧
      run.2.1 = { fondSession with
        participants.left := ⟨"Ann", true, none⟩ } := by
  intro run
  have hstays : quitter.StaysInTarget Prod.snd ⟨""⟩ := by
    rintro source target ⟨count, tree⟩ -
    refine ⟨[.create target .comment [], .edit target (.html "<p>")], ?_, rfl⟩
    simp only [List.forall_mem_cons, SinkCall.node, true_or, true_and]
    exact List.forall_mem_nil _
  obtain ⟨-, hthere, -⟩ := growsBranch_dispatch hstays notedTree 0 fondSession ⟨1⟩ foreignMessage
  obtain ⟨hbranch, hsession⟩ := hthere (by decide)
  exact ⟨hstays, by decide +kernel, hbranch, by decide +kernel, hsession.trans (by decide +kernel)⟩

end Colloquy
