import Colloquy.Proofs.Performance
import Colloquy.Render.Script

/-!
# Handles in use

A drawing keeps the handles of its wrapper and of the box that waits for a footer, and uses them
when many nodes have been created in between. An element tree never loses a node, so a handle stays
good once it is. Whether every request of a drawing finds its node can therefore be told from the
number of nodes alone: that is what `Grounded` says. So a drawing over an element tree fails only
where its markdown renderer raises an error.
-/

namespace Colloquy

variable {α β σ : Type}

namespace MarkdownRenderer

/-- Asked to render into a node of the tree, the renderer changes no other node. It may add nodes,
and it may fail. -/
def WritesOnlyTarget (markdown : MarkdownRenderer σ) (tree : σ → ElementTree)
    (context : MarkdownContext) : Prop :=
  ∀ ⦃source target state⦄, target.index < (tree state).size →
    let after := tree (markdown source target context state).2
    (tree state).size ≤ after.size ∧
      ∀ node, node.index < (tree state).size → node ≠ target →
        after.get? node = (tree state).get? node

/-- Asked to render into a node of the tree, the renderer stops with the error and leaves the
state. -/
def Raises (markdown : MarkdownRenderer σ) (tree : σ → ElementTree) (context : MarkdownContext)
    (error : RenderError) (after : σ) : Prop :=
  ∃ source target before, target.index < (tree before).size ∧
    markdown source target context before = (.error error, after)

/-- A renderer that answers with one change to its target changes no other node and raises no
error. -/
theorem writesOnlyTarget_of_edit {sink : Sink σ} {tree : σ → ElementTree}
    (hsink : sink.Carries tree) {markdown : MarkdownRenderer σ} {context : MarkdownContext}
    (edit : String → Edit)
    (hmarkdown : ∀ source target, markdown source target context = sink.edit target (edit source)) :
    markdown.WritesOnlyTarget tree context ∧
      ∀ error after, ¬markdown.Raises tree context error after := by
  constructor
  · intro source target state htarget
    obtain ⟨after, hedit, htree⟩ := hsink.exists_edit htarget (edit source)
    rw [hmarkdown, hedit]
    refine ⟨Nat.le_of_eq ?_, ?_⟩
    · rw [htree, ElementTree.size_modify]
    · intro node _ hne
      rw [htree, ElementTree.get?_modify, if_neg hne]
  · rintro error after ⟨source, target, before, htarget, hrun⟩
    obtain ⟨_, hedit, -⟩ := hsink.exists_edit htarget (edit source)
    rw [hmarkdown, hedit] at hrun
    cases hrun

end MarkdownRenderer

namespace Drawing

/-! ### Grounded drawings -/

/-- Every request is sent to one of the nodes that are there, `size` of them at first, and the
result and the number of nodes in the end satisfy `post`, however many nodes markdown adds. -/
def Grounded (post : α → Nat → Prop) : Drawing α → Nat → Prop
  | .done result, size => post result size
  | .create parent _ _ next, size =>
    parent.index < size ∧ (next ⟨size⟩).Grounded post (size + 1)
  | .edit node _ next, size => node.index < size ∧ next.Grounded post size
  | .markdown _ target next, size =>
    target.index < size ∧ ∀ later, size ≤ later → next.Grounded post later

/-- Nodes are only added, so what follows a grounded drawing is to be grounded on no fewer. -/
theorem Grounded.bind {mid : α → Nat → Prop} {post : β → Nat → Prop} {drawing : Drawing α}
    {f : α → Drawing β} {size : Nat} (h : drawing.Grounded mid size)
    (hf : ∀ result later, size ≤ later → mid result later → (f result).Grounded post later) :
    (drawing >>= f).Grounded post size := by
  change (drawing.bind f).Grounded post size
  induction drawing generalizing size with
  | done result => exact hf result size (Nat.le_refl _) h
  | create parent role classes next ih =>
    exact ⟨h.1, ih _ h.2 fun result later hle ↦ hf result later (Nat.le_of_succ_le hle)⟩
  | edit node change next ih => exact ⟨h.1, ih h.2 hf⟩
  | markdown source target next ih =>
    exact ⟨h.1, fun middle hmiddle ↦ ih (h.2 middle hmiddle) fun result later hle ↦
      hf result later (Nat.le_trans hmiddle hle)⟩

/-- A new child gets the next handle. -/
theorem grounded_newChild {parent : NodeId} {size : Nat} (h : parent.index < size) (role : Role)
    (classes : List String) :
    (newChild parent role classes).Grounded (fun node later ↦ node.index < later) size :=
  ⟨h, Nat.lt_succ_self _⟩

/-- A change adds no node. -/
theorem grounded_change {node : NodeId} {size : Nat} (h : node.index < size) (edit : Edit) :
    (change node edit).Grounded (fun _ _ ↦ True) size :=
  ⟨h, trivial⟩

/-- Drawings one after the other are grounded if each is, on as many nodes or more. -/
theorem grounded_forM {ι : Type} {items : List ι} {f : ι → Drawing Unit} {size : Nat}
    (h : ∀ item ∈ items, ∀ later, size ≤ later → (f item).Grounded (fun _ _ ↦ True) later) :
    (items.forM f).Grounded (fun _ _ ↦ True) size := by
  induction items generalizing size with
  | nil => trivial
  | cons item rest ih =>
    rw [List.forM_eq_forM, List.forM_cons]
    apply (h item List.mem_cons_self size (Nat.le_refl _)).bind
    rintro _ middle hmiddle -
    apply ih
    intro next hnext later hlater
    exact h next (List.mem_cons_of_mem _ hnext) later (Nat.le_trans hmiddle hlater)

/-- Over an element tree a grounded drawing comes to its end, unless the markdown renderer raises an
error: then it stops with that. -/
theorem Grounded.of_perform {sink : Sink σ} {markdown : MarkdownRenderer σ}
    {context : MarkdownContext} {tree : σ → ElementTree} (hsink : sink.Carries tree)
    (hmarkdown : markdown.WritesOnlyTarget tree context) {post : α → Nat → Prop}
    {drawing : Drawing α} {state : σ} (h : drawing.Grounded post (tree state).size) :
    let run := drawing.perform sink markdown context state
    (∃ result, run.1 = .ok result ∧ post result (tree run.2).size) ∨
      ∃ error, run.1 = .error error ∧ markdown.Raises tree context error run.2 := by
  induction drawing generalizing state with
  | done result => exact .inl ⟨result, rfl, h⟩
  | create parent role classes next ih =>
    obtain ⟨hparent, hnext⟩ := h
    obtain ⟨after, hcreate, htree⟩ := hsink.exists_create hparent role classes
    rw [← ElementTree.size_adopt _ parent (.new role classes), ← htree] at hnext
    rw [perform_create, hcreate]
    exact ih _ hnext
  | edit node change next ih =>
    obtain ⟨hnode, hnext⟩ := h
    obtain ⟨after, hedit, htree⟩ := hsink.exists_edit hnode change
    rw [← ElementTree.size_modify _ node (·.apply change), ← htree] at hnext
    rw [perform_edit, hedit]
    exact ih hnext
  | markdown source target next ih =>
    obtain ⟨htarget, hnext⟩ := h
    have hsize : (tree state).size ≤ (tree (markdown source target context state).2).size :=
      (hmarkdown htarget).1
    rw [perform_markdown]
    rcases hrun : markdown source target context state with ⟨error | ⟨⟩, after⟩
    · exact .inr ⟨error, rfl, source, target, state, htarget, hrun⟩
    · rw [hrun] at hsize
      exact ih (hnext _ hsize)

end Drawing

open Drawing

/-! ### Single instructions -/

variable {wrapper : NodeId} {size : Nat}

/-- A text is drawn below a node that is there. -/
theorem grounded_drawText {parent : NodeId} (h : parent.index < size) (role : Role)
    (className text : String) (markdown : Bool) :
    (drawText parent role className text markdown).Grounded
      (fun node later ↦ node.index < later) size := by
  unfold drawText
  cases markdown with
  | false =>
    apply (grounded_newChild h role _).bind
    intro node later _ hnode
    exact (grounded_change hnode _).bind fun _ _ hle _ ↦ Nat.lt_of_lt_of_le hnode hle
  | true =>
    apply (grounded_newChild h role _).bind
    intro node later _ hnode
    exact ⟨hnode, fun _ hle ↦ Nat.lt_of_lt_of_le hnode hle⟩

/-- The frame of a message is drawn below a wrapper that is there. -/
theorem grounded_drawFrame (h : wrapper.index < size) (presentation : Presentation)
    (message : MessageInstruction) :
    (drawFrame wrapper presentation message).Grounded (fun box later ↦ box.index < later) size := by
  apply (grounded_newChild h _ _).bind
  intro outer framed _ houter
  have hattributes : (message.attributes.forM fun entry ↦
      change outer (.attribute entry.1 entry.2)).Grounded (fun _ _ ↦ True) framed :=
    grounded_forM fun entry _ later hle ↦ grounded_change (Nat.lt_of_lt_of_le houter hle) _
  apply hattributes.bind
  intro _ marked hmarked _
  apply (grounded_newChild (Nat.lt_of_lt_of_le houter hmarked) _ _).bind
  intro box boxed _ hbox
  exact (grounded_change hbox _).bind fun _ _ hle _ ↦ Nat.lt_of_lt_of_le hbox hle

/-- A box that is there is filled. -/
theorem grounded_fillBubble {bubble : NodeId} (h : bubble.index < size) (toggles : MarkdownToggles)
    (message : MessageInstruction) (showsTitle : Bool) :
    (fillBubble bubble toggles message showsTitle).Grounded (fun _ _ ↦ True) size := by
  have hcontent : ∀ {later}, size ≤ later → (do
      let _ ← drawText bubble .content Classes.messageContent message.content toggles.content
      pure () : Drawing Unit).Grounded (fun _ _ ↦ True) later := fun hle ↦
    (grounded_drawText (Nat.lt_of_lt_of_le h hle) _ _ _ _).bind fun _ _ _ _ ↦ trivial
  cases showsTitle with
  | false => exact hcontent (Nat.le_refl _)
  | true => exact (grounded_drawText h _ _ _ _).bind fun _ later hle _ ↦ hcontent hle

/-- A comment is drawn below a wrapper that is there. -/
theorem grounded_drawComment (h : wrapper.index < size) (presentation : Presentation)
    (content : String) :
    (drawComment wrapper presentation content).Grounded (fun _ _ ↦ True) size := by
  apply (grounded_newChild h _ _).bind
  intro outer _ _ houter
  apply (grounded_drawText houter _ _ _ _).bind
  intro body _ _ hbody
  exact grounded_change hbody _

/-- A row of dots is drawn below a wrapper that is there. -/
theorem grounded_drawDelimiter (h : wrapper.index < size) :
    (drawDelimiter wrapper).Grounded (fun _ _ ↦ True) size := by
  apply (grounded_newChild h _ _).bind
  intro outer _ _ houter
  apply (grounded_newChild houter _ _).bind
  intro row _ _ hrow
  apply grounded_forM
  intro _ _ later hle
  exact (grounded_newChild (Nat.lt_of_lt_of_le hrow hle) _ _).bind fun _ _ _ _ ↦ trivial

/-- A line of no known shape is drawn below a wrapper that is there. -/
theorem grounded_drawUnparsed (h : wrapper.index < size) (content : String) :
    (drawUnparsed wrapper content).Grounded (fun _ _ ↦ True) size := by
  apply (grounded_newChild h _ _).bind
  intro node _ _ hnode
  exact grounded_change hnode _

/-! ### Whole scripts -/

/-- The box that waits for a footer is there. -/
def PendingFooter.There (pending : PendingFooter) (size : Nat) : Prop :=
  ∀ message ∈ pending, message.bubble.index < size

/-- Nothing waits at first, nor after a line that is no message. -/
theorem PendingFooter.there_none (size : Nat) : PendingFooter.There none size :=
  fun _ hnone ↦ nomatch hnone

/-- A step leaves the box of the message it shows. -/
theorem Session.grounded_drawStep (h : wrapper.index < size) (session : Session) (step : Step) :
    (session.drawStep wrapper step).Grounded (fun result later ↦ result.2.There later) size := by
  cases step with
  | nothing => exact PendingFooter.there_none size
  | attachFooter content => exact PendingFooter.there_none size
  | render instruction =>
    cases instruction with
    | message message =>
      have hdraw : (session.draw wrapper (.message message)).Grounded
          (fun result later ↦ ∃ box, result.2 = some box ∧ box.index < later) size := by
        apply (grounded_drawFrame h _ _).bind
        intro box _ _ hbox
        apply (grounded_fillBubble hbox _ _ _).bind
        intro _ later hle _
        exact ⟨box, rfl, Nat.lt_of_lt_of_le hbox hle⟩
      apply hdraw.bind
      rintro ⟨_, _⟩ later _ ⟨box, rfl, hbox⟩ waiting hwaiting
      cases Option.mem_some.mp hwaiting
      exact hbox
    | comment content =>
      have hdraw : (session.draw wrapper (.comment content)).Grounded (fun _ _ ↦ True) size :=
        (grounded_drawComment h _ _).bind fun _ _ _ _ ↦ trivial
      exact hdraw.bind fun _ later _ _ ↦ PendingFooter.there_none later
    | delimiter =>
      have hdraw : (session.draw wrapper .delimiter).Grounded (fun _ _ ↦ True) size :=
        (grounded_drawDelimiter h).bind fun _ _ _ _ ↦ trivial
      exact hdraw.bind fun _ later _ _ ↦ PendingFooter.there_none later
    | unparsed content =>
      have hdraw : (session.draw wrapper (.unparsed content)).Grounded (fun _ _ ↦ True) size :=
        (grounded_drawUnparsed h _).bind fun _ _ _ _ ↦ trivial
      exact hdraw.bind fun _ later _ _ ↦ PendingFooter.there_none later

/-- A footer goes into a box that is there. -/
theorem grounded_settleFooter {pending : PendingFooter} (h : pending.There size)
    (explicit : Option String) :
    (settleFooter pending explicit).Grounded (fun _ _ ↦ True) size := by
  unfold settleFooter
  cases hresolve : pending.resolve explicit with
  | none => trivial
  | some settled =>
    obtain ⟨message, footer⟩ := settled
    have hmessage : message ∈ pending := (PendingFooter.resolve_eq_some_iff.mp hresolve).1
    exact (grounded_drawText (h message hmessage) _ _ _ _).bind fun _ _ _ _ ↦ trivial

namespace Progress

/-- A line finds its wrapper and the box of the line before, and leaves its own box. -/
theorem grounded_drawLine (hwrapper : wrapper.index < size) {progress : Progress}
    (hpending : progress.pending.There size) (sourceId : Nat) (line : Line) :
    (progress.drawLine wrapper sourceId line).Grounded
      (fun after later ↦ after.pending.There later) size := by
  apply (Session.grounded_drawStep hwrapper _ _).bind
  rintro ⟨session, pending⟩ drawn hdrawn hthere
  have hbefore : progress.pending.There drawn := fun message hmessage ↦
    Nat.lt_of_lt_of_le (hpending message hmessage) hdrawn
  apply (grounded_settleFooter hbefore _).bind
  intro _ later hle _ message hmessage
  exact Nat.lt_of_lt_of_le (hthere message hmessage) hle

/-- Consecutive lines find the wrapper and the boxes that they use. -/
theorem grounded_drawLines (hwrapper : wrapper.index < size) {progress : Progress}
    (hpending : progress.pending.There size) (sourceId : Nat) (lines : List Line) :
    (lines.foldlM (drawLine wrapper sourceId) progress).Grounded
      (fun after later ↦ after.pending.There later) size := by
  induction lines generalizing progress size with
  | nil => exact hpending
  | cons line rest ih =>
    rw [List.foldlM_cons]
    apply (grounded_drawLine hwrapper hpending sourceId line).bind
    intro after later hle hthere
    exact ih (Nat.lt_of_lt_of_le hwrapper hle) hthere

end Progress

/-- A drawing below a root that is there is grounded. -/
theorem Script.grounded_draw {root : NodeId} (hroot : root.index < size) (script : Script)
    (config : Config) : (script.draw config root).Grounded (fun _ _ ↦ True) size := by
  apply (grounded_newChild hroot _ _).bind
  intro wrapper opened _ hwrapper
  apply (Progress.grounded_drawLines hwrapper (PendingFooter.there_none opened) _ _).bind
  intro progress later _ hthere
  exact (grounded_settleFooter hthere _).bind fun _ _ _ _ ↦ trivial

/-- Drawing a block below the root of a tree fails only where the markdown renderer does. Each
request names a node that is there when it is made, so none is refused: a renderer that writes only
to its target and raises no error lets the drawing come to its end, and so do the two renderers that
make one call each. -/
theorem renderDialogue_ok_or_raises {start : ElementTree} (hstart : start.Reachable)
    (source : String) (config : Config) (context : MarkdownContext) :
    ((Script.parse source 0).draw config ElementTree.root).Grounded (fun _ _ ↦ True) start.size ∧
    (∀ (τ : Type) (memory : τ) (markdown : MarkdownRenderer (τ × ElementTree)),
      markdown.WritesOnlyTarget Prod.snd context →
      let run := renderDialogue source config (ElementTree.sink.beside τ) markdown context
        (memory, start)
      ((∃ outcome, run.1 = .ok outcome) ∨
        ∃ error, run.1 = .error error ∧ markdown.Raises Prod.snd context error run.2) ∧
      ((∀ error after, ¬markdown.Raises Prod.snd context error after) →
        ∃ outcome, run.1 = .ok outcome)) ∧
    (∃ outcome, (renderDialogue source config ElementTree.sink (.plain ElementTree.sink) context
      start).1 = .ok outcome) ∧
    ∀ toHtml, ∃ outcome, (renderDialogue source config ElementTree.sink
      (.ofHtml toHtml ElementTree.sink) context start).1 = .ok outcome := by
  have hdraw : ((Script.parse source 0).draw config ElementTree.root).Grounded (fun _ _ ↦ True)
      start.size := (Script.parse source 0).grounded_draw hstart.grown.size_pos config
  have hedit : ∀ (markdown : MarkdownRenderer ElementTree) (edit : String → Edit),
      (∀ source target, markdown source target context =
        ElementTree.sink.edit target (edit source)) →
      ∃ outcome, (renderDialogue source config ElementTree.sink markdown context start).1 =
        .ok outcome := by
    intro markdown edit hmarkdown
    obtain ⟨hwrites, hcalm⟩ :=
      MarkdownRenderer.writesOnlyTarget_of_edit ElementTree.sink_carries edit hmarkdown
    rcases hdraw.of_perform ElementTree.sink_carries hwrites with
      ⟨outcome, hok, -⟩ | ⟨_, -, hraises⟩
    · exact ⟨outcome, hok⟩
    · exact absurd hraises (hcalm _ _)
  refine ⟨hdraw, ?_, hedit _ .text fun _ _ ↦ rfl, fun toHtml ↦
    hedit _ (fun source ↦ .html (toHtml source)) fun _ _ ↦ rfl⟩
  intro τ memory markdown hwrites run
  have hbeside : ((Script.parse source 0).draw config ElementTree.root).Grounded (fun _ _ ↦ True)
      (memory, start).2.size := hdraw
  have hrun : (∃ outcome, run.1 = .ok outcome) ∨
      ∃ error, run.1 = .error error ∧ markdown.Raises Prod.snd context error run.2 :=
    (hbeside.of_perform ElementTree.sink_carries.beside hwrites).imp_left
      fun ⟨outcome, hok, _⟩ ↦ ⟨outcome, hok⟩
  refine ⟨hrun, fun hcalm ↦ hrun.resolve_right ?_⟩
  rintro ⟨error, -, hraises⟩
  exact hcalm error _ hraises

/-- A renderer that shows as many sources as it is told to and fails at the next. -/
def impatient : MarkdownRenderer (Nat × ElementTree) := fun source target context state ↦
  match state with
  | (0, tree) => (.error (.markdown "out of patience"), (0, tree))
  | (patience + 1, tree) =>
    let (answer, tree) := MarkdownRenderer.plain ElementTree.sink source target context tree
    (answer, (patience, tree))

/-- The tree with one note under its root. -/
def notedTree : ElementTree := ElementTree.empty.adopt ElementTree.root (.new .comment [])

/-- Two messages whose contents go through markdown. -/
def twoMessages : String := "renderMarkdownContent: true\n<a\n<b"

/-- A renderer that can fail does so at the second message, and the drawing stops with its error. -/
theorem renderDialogue_ok_or_raises_twoMessages :
    let run := renderDialogue twoMessages .default (ElementTree.sink.beside Nat) impatient ⟨""⟩
      (1, notedTree)
    notedTree.Reachable ∧ impatient.WritesOnlyTarget Prod.snd ⟨""⟩ ∧
      run.1 = .error (.markdown "out of patience") ∧
      impatient.Raises Prod.snd ⟨""⟩ (.markdown "out of patience") run.2 ∧
      ∃ outcome, (renderDialogue twoMessages .default ElementTree.sink (.plain ElementTree.sink)
        ⟨""⟩ notedTree).1 = .ok outcome := by
  have hreachable : notedTree.Reachable := .create .empty
    (ElementTree.create_eq (Nat.zero_lt_one : ElementTree.root.index < 1) .comment [])
  have hplain : (MarkdownRenderer.plain ElementTree.sink).WritesOnlyTarget id ⟨""⟩ ∧
      ∀ error after, ¬(MarkdownRenderer.plain ElementTree.sink).Raises id ⟨""⟩ error after :=
    MarkdownRenderer.writesOnlyTarget_of_edit ElementTree.sink_carries .text fun _ _ ↦ rfl
  have hwrites : impatient.WritesOnlyTarget Prod.snd ⟨""⟩ := by
    rintro source target ⟨_ | patience, tree⟩ htarget
    · exact ⟨Nat.le_refl _, fun _ _ _ ↦ rfl⟩
    · exact hplain.1 htarget
  have hraises : ∀ {error after}, impatient.Raises Prod.snd ⟨""⟩ error after →
      error = .markdown "out of patience" := by
    rintro error after ⟨source, target, ⟨_ | patience, tree⟩, htarget, hrun⟩
    · cases hrun
      rfl
    · have hfst : (MarkdownRenderer.plain ElementTree.sink source target ⟨""⟩ tree).1 =
          .error error := congrArg Prod.fst hrun
      exact absurd ⟨source, target, tree, htarget, Prod.ext hfst rfl⟩ (hplain.2 error _)
  have hrun := renderDialogue_ok_or_raises hreachable twoMessages .default ⟨""⟩
  refine ⟨hreachable, hwrites, ?_⟩
  rcases (hrun.2.1 Nat 1 impatient hwrites).1 with ⟨outcome, hok⟩ | ⟨error, herror, hraise⟩
  · have hfails : (renderDialogue twoMessages .default (ElementTree.sink.beside Nat) impatient ⟨""⟩
        (1, notedTree)).1.isOk = false := by decide +kernel
    rw [hok] at hfails
    cases hfails
  · cases hraises hraise
    exact ⟨herror, hraise, hrun.2.2.1⟩

end Colloquy
