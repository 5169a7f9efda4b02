import Colloquy.Proofs.Canvas
import Colloquy.Render.Script

/-!
# Drawn blocks

Each instruction adds one block to the end of the canvas, and the block looks as it is sketched. A
message is the one block that may still grow: it looks as sketched once its footer is grafted into
its box.
-/

namespace Colloquy

open Drawing

variable {start tree : ElementTree} {below : Forest (NodeId × Element)}
  {allowed : String → Option Content → Prop}

/-! ### Elements -/

/-- A style set on what depicts a sketched node is a style of the sketch. -/
theorem Sketch.DepictedBy.style {sketch : Sketch} {element : Element}
    (h : sketch.DepictedBy allowed element) (property value : String) :
    { sketch with styles := sketch.styles.set property value }.DepictedBy allowed
      (element.apply (.style property value)) := by
  obtain ⟨content, hcontent, rfl⟩ := h
  exact ⟨content, hcontent, rfl⟩

/-- A text in a sketch has no styles of its own. -/
theorem Sketch.styles_ofText (role : Role) (className text : String) (markdown : Bool) :
    (ofText role className text markdown).styles = [] := by
  cases markdown <;> rfl

/-- A text is drawn as sketched, in a new child. -/
theorem ensures_drawText {post : NodeId → ElementTree → Prop} {parent : NodeId}
    (hparent : parent.index < tree.size) {role : Role} {className text : String} {markdown : Bool}
    (hpost : ∀ element, (Sketch.ofText role className text markdown).DepictedBy allowed element →
      post ⟨tree.size⟩ (tree.adopt parent element)) :
    (drawText parent role className text markdown).Ensures allowed post tree := by
  unfold drawText
  cases markdown with
  | false =>
    simp only [Bool.false_eq_true, if_false, ensures_bind, ensures_newChild, ensures_pure]
    refine ⟨hparent, ensures_change_adopt (hpost _ ⟨_, ?_, rfl⟩)⟩
    rfl
  | true =>
    simp only [if_true, ensures_bind, ensures_newChild, ensures_pure]
    refine ⟨hparent, ⟨_, by rw [ElementTree.get?_adopt, if_pos rfl], rfl⟩, ?_⟩
    intro content hcontent
    rw [ElementTree.modify_adopt]
    exact hpost _ ⟨content, hcontent, rfl⟩

/-- Attributes set on the newest element are part of its adoption. -/
theorem ensures_attributes {post : Unit → ElementTree → Prop} {parent : NodeId}
    (attributes : Properties) {element : Element}
    (h : post () (tree.adopt parent (attributes.foldl
      (fun element entry ↦ element.apply (.attribute entry.1 entry.2)) element))) :
    (attributes.forM fun entry ↦
      change ⟨tree.size⟩ (.attribute entry.1 entry.2)).Ensures allowed post
        (tree.adopt parent element) := by
  induction attributes generalizing element with
  | nil => exact h
  | cons entry rest ih =>
    rw [List.forM_eq_forM, List.forM_cons, ensures_bind]
    exact ensures_change_adopt (ih h)

/-- The attributes of a message set one after the other give the wrapper as sketched. -/
theorem MessageInstruction.foldl_attributes (message : MessageInstruction) :
    message.attributes.foldl (fun element entry ↦ element.apply (.attribute entry.1 entry.2))
        (.new (.message message.side) [Classes.blockWrapper, Classes.messageWrapper message.side]) =
      (Sketch.frame message.side (Sketch.participant message.title message.id)).element none := by
  unfold attributes Sketch.participant
  by_cases htitle : message.title = ""
  · rw [if_pos htitle]
    cases message.id <;> rfl
  · rw [if_neg htitle]
    cases message.id <;> rfl

/-! ### Whole blocks -/

namespace Canvas

/-- A block has been added to the end of the canvas, and it looks as sketched. -/
def Gains (start : ElementTree) (below : Forest (NodeId × Element))
    (allowed : String → Option Content → Prop) (sketch : Forest Sketch) (tree : ElementTree) :
    Prop :=
  ∃ block, Canvas start tree (below ++ block) ∧ block.Depicts allowed sketch

/-- Nothing is a block that looks as nothing. -/
theorem gains_nil (h : Canvas start tree below) : Gains start below allowed .nil tree :=
  ⟨.nil, by rwa [Forest.append_nil], .nil⟩

/-- A comment looks as sketched. -/
theorem ensures_drawComment (h : Canvas start tree below) (presentation : Presentation)
    (content : String) :
    (drawComment ⟨start.size⟩ presentation content).Ensures allowed
      (fun _ after ↦ Gains start below allowed (Sketch.comment presentation content) after)
      tree := by
  simp only [drawComment, ensures_bind, ensures_newChild]
  refine ⟨h.size_lt, ensures_drawText (tree.lt_size_adopt _ _) ?_⟩
  intro body hbody
  apply ensures_change_adopt
  have hstyled := hbody.style "max-width" presentation.commentMaxWidth
  refine ⟨_, h.adopt_nested rfl hstyled.children_eq,
    .cons (Sketch.depictedBy_blank allowed rfl) (.leaf ?_) .nil⟩
  rwa [Sketch.styles_ofText] at hstyled

/-- Dots go to the end of their row. -/
theorem ensures_dots {last : Forest (NodeId × Element)} {row : NodeId} {α : Type} (ticks : List α)
    (h : Canvas start tree (below ++ last)) (hrow : row ∈ last.handles) :
    (ticks.forM fun _ ↦ do
      let _ ← newChild row .delimiterDot [Classes.delimiterDot]).Ensures allowed
      (fun _ after ↦ ∃ dots, Canvas start after (below ++ last.graft row dots) ∧
        dots.Depicts allowed (Sketch.dots ticks.length)) tree := by
  induction ticks generalizing tree last with
  | nil => exact ⟨.nil, by rwa [Forest.graft_nil], .nil⟩
  | cons tick rest ih =>
    rw [List.forM_eq_forM, List.forM_cons]
    simp only [ensures_bind, ensures_newChild]
    have hmem : row ∈ (below ++ last).handles := by
      rw [Forest.handles_append]
      exact List.mem_append_right _ hrow
    have hfresh : row ∉ (Forest.cons ((⟨tree.size⟩ : NodeId),
        Element.new .delimiterDot [Classes.delimiterDot]) .nil .nil).handles := by
      intro hnew
      cases List.mem_singleton.mp hnew
      exact h.next_not_mem hmem
    refine ⟨h.lt_size hmem, ?_⟩
    apply (ih (h.adopt_last hrow rfl) (Forest.mem_handles_graft_of_mem hrow)).mono
    rintro _ after ⟨dots, hcanvas, hdots⟩
    rw [Forest.graft_graft_same hfresh] at hcanvas
    exact ⟨_, hcanvas, .cons (Sketch.depictedBy_blank allowed rfl) .nil hdots⟩

/-- A row of dots looks as sketched. -/
theorem ensures_drawDelimiter (h : Canvas start tree below) :
    (drawDelimiter ⟨start.size⟩).Ensures allowed
      (fun _ after ↦ Gains start below allowed Sketch.delimiter after) tree := by
  simp only [drawDelimiter, ensures_bind, ensures_newChild, ElementTree.size_adopt]
  refine ⟨h.size_lt, Nat.lt_succ_self _, ?_⟩
  have hrow := List.mem_cons_of_mem (⟨tree.size⟩ : NodeId)
    (List.mem_singleton_self (⟨tree.size + 1⟩ : NodeId))
  apply (ensures_dots (List.range 3) (h.adopt_nested rfl rfl) hrow).mono
  rintro _ after ⟨dots, hcanvas, hdots⟩
  have hne : (⟨tree.size⟩ : NodeId) ≠ ⟨tree.size + 1⟩ := by simp
  rw [Forest.graft_nested hne List.not_mem_nil] at hcanvas
  exact ⟨_, hcanvas, .cons (Sketch.depictedBy_blank allowed rfl)
    (.cons (Sketch.depictedBy_blank allowed rfl) hdots .nil) .nil⟩

/-- A line of no known shape looks as sketched. -/
theorem ensures_drawUnparsed (h : Canvas start tree below) (content : String) :
    (drawUnparsed ⟨start.size⟩ content).Ensures allowed
      (fun _ after ↦ Gains start below allowed (Sketch.unparsed content) after) tree := by
  simp only [drawUnparsed, ensures_bind, ensures_newChild]
  refine ⟨h.size_lt, ensures_change_adopt ?_⟩
  exact ⟨_, h.adopt_wrapper rfl, .leaf ⟨_, rfl, rfl⟩⟩

end Canvas

/-! ### Messages -/

/-- A block that still takes a footer into its box. It looks as it is to look in the end once that
footer is grafted. -/
def Forest.Awaits (allowed : String → Option Content → Prop) (block : Forest (NodeId × Element))
    (bubble : NodeId) (finished : Option Sketch → Forest Sketch) : Prop :=
  bubble ∈ block.handles ∧ ∀ footer branch, branch.Depicts allowed (.optional footer) →
    (block.graft bubble branch).Depicts allowed (finished footer)

/-- A message without its footer awaits that footer in its box. -/
theorem Forest.Awaits.message {outer bubble : NodeId} {frame box content : Sketch}
    {title : Option Sketch} {outerElement boxElement : Element}
    (hframe : frame.DepictedBy allowed outerElement) (hbox : box.DepictedBy allowed boxElement)
    {inside : Forest (NodeId × Element)}
    (hinside : inside.Depicts allowed (.optional title ++ .optional (some content)))
    (hne : outer ≠ bubble) (hnot : bubble ∉ inside.handles) :
    (cons (outer, outerElement) (.cons (bubble, boxElement) inside .nil) .nil).Awaits allowed
      bubble (Sketch.message frame box title content) := by
  refine ⟨by simp, ?_⟩
  intro footer branch hbranch
  rw [graft_nested hne hnot]
  exact .cons hframe (.cons hbox (hinside.append hbranch) .nil) .nil

namespace Canvas

/-- The frame of a message is its wrapper with its box. -/
theorem ensures_drawFrame (h : Canvas start tree below) (presentation : Presentation)
    (message : MessageInstruction) :
    (drawFrame ⟨start.size⟩ presentation message).Ensures allowed
      (fun bubble after ↦ ∃ outer, Canvas start after (below ++ .cons
        (outer, (Sketch.frame message.side (Sketch.participant message.title message.id)).element none)
        (.cons (bubble, (Sketch.bubble presentation.messageMaxWidth).element none) .nil .nil)
        .nil)) tree := by
  simp only [drawFrame, ensures_bind, ensures_newChild, ensures_pure]
  refine ⟨h.size_lt, ensures_attributes _ ⟨tree.lt_size_adopt _ _, ensures_change_adopt ?_⟩⟩
  rw [message.foldl_attributes, ElementTree.size_adopt]
  exact ⟨_, h.adopt_nested rfl rfl⟩

/-- The handles of a box and of its frame are not below the box. -/
theorem box_fresh {outer bubble : NodeId} {frame box : Element} {inside : Forest (NodeId × Element)}
    (h : Canvas start tree (below ++ .cons (outer, frame) (.cons (bubble, box) inside .nil) .nil)) :
    outer ≠ bubble ∧ bubble ∉ inside.handles := by
  have hnodup := h.nodup
  simp only [Forest.handles_append, Forest.handles_cons, Forest.handles_nil, List.append_nil,
    List.nodup_append, List.nodup_cons, List.mem_cons, not_or] at hnodup
  obtain ⟨-, ⟨⟨hne, -⟩, hnot, -⟩, -⟩ := hnodup
  exact ⟨hne, hnot⟩

/-- A text in a box goes to the end of what is in the box. -/
theorem ensures_drawText_box {outer bubble : NodeId} {frame box : Element}
    {inside : Forest (NodeId × Element)}
    (h : Canvas start tree (below ++ .cons (outer, frame) (.cons (bubble, box) inside .nil) .nil))
    {sketch : Forest Sketch} (hinside : inside.Depicts allowed sketch) (role : Role)
    (className text : String) (markdown : Bool) :
    (drawText bubble role className text markdown).Ensures allowed
      (fun _ after ↦ ∃ inside', inside'.Depicts allowed
          (sketch ++ .optional (some (Sketch.ofText role className text markdown))) ∧
        Canvas start after
          (below ++ .cons (outer, frame) (.cons (bubble, box) inside' .nil) .nil)) tree := by
  have hbox : bubble ∈ (Forest.cons (outer, frame) (.cons (bubble, box) inside .nil)
      .nil).handles := by
    simp
  have hsize : bubble.index < tree.size := by
    apply h.lt_size
    rw [Forest.handles_append]
    exact List.mem_append_right _ hbox
  apply ensures_drawText hsize
  intro element helement
  have hcanvas := h.adopt_last hbox helement.children_eq
  rw [Forest.graft_nested h.box_fresh.1 h.box_fresh.2] at hcanvas
  exact ⟨_, hinside.append (.leaf helement), hcanvas⟩

/-- The title, if it is shown, and the content go into the box one after the other. -/
theorem ensures_fillBubble {outer bubble : NodeId} {frame box : Element}
    (h : Canvas start tree (below ++ .cons (outer, frame) (.cons (bubble, box) .nil .nil) .nil))
    (toggles : MarkdownToggles) (message : MessageInstruction) (showsTitle : Bool) :
    (fillBubble bubble toggles message showsTitle).Ensures allowed
      (fun _ after ↦ ∃ inside, inside.Depicts allowed (.optional (if showsTitle then
          some (Sketch.title toggles message.title) else none) ++
          .optional (some (Sketch.content toggles message.content))) ∧
        Canvas start after
          (below ++ .cons (outer, frame) (.cons (bubble, box) inside .nil) .nil)) tree := by
  cases showsTitle with
  | false =>
    simp only [fillBubble, Bool.false_eq_true, if_false, ensures_bind, ensures_pure]
    exact ensures_drawText_box h .nil _ _ _ _
  | true =>
    simp only [fillBubble, if_true, ensures_bind, ensures_pure]
    apply (ensures_drawText_box h .nil _ _ _ _).mono
    rintro _ after ⟨inside, hinside, hcanvas⟩
    exact ensures_drawText_box hcanvas hinside _ _ _ _

/-- A message looks as sketched, but that it awaits its footer. -/
theorem ensures_drawMessage (h : Canvas start tree below) (session : Session)
    (message : MessageInstruction) :
    (session.draw ⟨start.size⟩ (.message message)).Ensures allowed
      (fun result after ↦
        result.1 = session.afterMessage message.side session.presentation.titleMode ∧
        ∃ bubble block, result.2 = some bubble ∧ Canvas start after (below ++ block) ∧
          block.Awaits allowed bubble (Sketch.message
            (.frame message.side (Sketch.participant message.title message.id))
            (.bubble session.presentation.messageMaxWidth)
            (if session.showsTitle message.side session.presentation.titleMode then
              some (.title session.presentation.markdown message.title) else none)
            (.content session.presentation.markdown message.content))) tree := by
  simp only [Session.draw, ensures_bind, ensures_pure]
  apply (h.ensures_drawFrame session.presentation message).mono
  rintro bubble framed ⟨outer, hframed⟩
  apply (ensures_fillBubble hframed _ _ _).mono
  rintro _ after ⟨inside, hinside, hcanvas⟩
  refine ⟨trivial, bubble, _, rfl, hcanvas, ?_⟩
  exact .message (Sketch.depictedBy_blank allowed rfl) (Sketch.depictedBy_blank allowed rfl)
    hinside hcanvas.box_fresh.1 hcanvas.box_fresh.2

end Canvas

end Colloquy
