import Colloquy.Proofs.Relabelling
import Colloquy.Render.Script

/-!
# Drawings in lockstep

Two drawings are in lockstep when they send the same requests in the same order, but for the names
of the nodes and the looks of the new ones. To a drawing a handle is a name that it was given, and
a side is a place to look things up. So the drawing of a script keeps in lockstep when its root goes
by another name and the sides are relabelled.
-/

namespace Colloquy

variable {α β γ δ : Type}

namespace Drawing

/-- The drawings send the same requests in the same order. The second has other names for the
handles of the first and another look for the new nodes, and `post` relates their results. -/
inductive Lockstep (rename : NodeId → NodeId) (look : Element → Element) (post : α → β → Prop) :
    Drawing α → Drawing β → Prop
  | done {result : α} {result' : β} : post result result' →
      Lockstep rename look post (.done result) (.done result')
  | create {parent : NodeId} {role role' : Role} {classes classes' : List String}
      {next : NodeId → Drawing α} {next' : NodeId → Drawing β} :
      Element.new role' classes' = look (.new role classes) →
      (∀ node, Lockstep rename look post (next node) (next' (rename node))) →
      Lockstep rename look post (.create parent role classes next)
        (.create (rename parent) role' classes' next')
  | edit {node : NodeId} {change : Edit} {next : Drawing α} {next' : Drawing β} :
      Lockstep rename look post next next' →
      Lockstep rename look post (.edit node change next) (.edit (rename node) change next')
  | markdown {source : String} {target : NodeId} {next : Drawing α} {next' : Drawing β} :
      Lockstep rename look post next next' →
      Lockstep rename look post (.markdown source target next)
        (.markdown source (rename target) next')

section Rules

variable {rename : NodeId → NodeId} {look : Element → Element}

/-- What goes on in lockstep after drawings in lockstep is in lockstep. -/
theorem Lockstep.bind {mid : α → β → Prop} {post : γ → δ → Prop} {drawing : Drawing α}
    {drawing' : Drawing β} {f : α → Drawing γ} {f' : β → Drawing δ}
    (h : drawing.Lockstep rename look mid drawing')
    (hf : ∀ result result', mid result result' →
      (f result).Lockstep rename look post (f' result')) :
    (drawing >>= f).Lockstep rename look post (drawing' >>= f') := by
  change (drawing.bind f).Lockstep rename look post (drawing'.bind f')
  induction h with
  | done hresult => exact hf _ _ hresult
  | create hlook _ ih => exact .create hlook ih
  | edit _ ih => exact .edit ih
  | markdown _ ih => exact .markdown ih

/-- New children are in lockstep, and their handles are named alike. -/
theorem lockstep_newChild {parent : NodeId} {role role' : Role} {classes classes' : List String}
    (h : Element.new role' classes' = look (.new role classes)) :
    (newChild parent role classes).Lockstep rename look (fun node node' ↦ node' = rename node)
      (newChild (rename parent) role' classes') :=
  .create h fun _ ↦ .done rfl

/-- One change to a node under its two names is in lockstep. -/
theorem lockstep_change (node : NodeId) (edit : Edit) :
    (change node edit).Lockstep rename look Eq (change (rename node) edit) :=
  .edit (.done rfl)

/-- Two loops over the same items are in lockstep if their bodies are. -/
theorem lockstep_forM {ι : Type} {f f' : ι → Drawing Unit}
    (h : ∀ item, (f item).Lockstep rename look Eq (f' item)) (items : List ι) :
    (items.forM f).Lockstep rename look Eq (items.forM f') := by
  induction items with
  | nil => exact .done rfl
  | cons item rest ih => exact (h item).bind fun _ _ _ ↦ ih

end Rules

end Drawing

open Drawing

/-- The message that waits, with its box under another name. -/
def PendingMessage.rename (rename : NodeId → NodeId) (message : PendingMessage) : PendingMessage :=
  { message with bubble := rename message.bubble }

/-- How far a drawing has got, with its handles under other names and its sides relabelled. -/
def Progress.relabel (rename : NodeId → NodeId) (p : Equiv.Perm Side) (progress : Progress) :
    Progress :=
  ⟨progress.session.relabel p, progress.pending.map (·.rename rename), progress.warnings⟩

variable (rename : NodeId → NodeId) (p : Equiv.Perm Side)

/-! ### Single instructions -/

/-- A text in a node that no side is told from is in lockstep. -/
theorem lockstep_drawText (parent : NodeId) {role : Role}
    (hrole : ∀ classes, (Element.new role classes).relabel p = .new role classes)
    (className text : String) (markdown : Bool) :
    (drawText parent role className text markdown).Lockstep rename (Element.relabel p)
      (fun node node' ↦ node' = rename node)
      (drawText (rename parent) role className text markdown) := by
  cases markdown with
  | false =>
    apply (lockstep_newChild (hrole _).symm).bind
    rintro node _ rfl
    exact (lockstep_change node _).bind fun _ _ _ ↦ .done rfl
  | true =>
    apply (lockstep_newChild (hrole _).symm).bind
    rintro node _ rfl
    exact .markdown (.done rfl)

/-- The wrapper of a message is relabelled with its side. -/
theorem Element.relabel_messageWrapper (side : Side) :
    (Element.new (.message side) [Classes.blockWrapper, Classes.messageWrapper side]).relabel p =
      .new (.message (p side)) [Classes.blockWrapper, Classes.messageWrapper (p side)] := by
  have hblock : Classes.blockWrapper ≠ Classes.messageWrapper side := by
    cases side <;> decide
  simp only [relabel, Element.new, Role.relabel, Role.relabelClasses, List.map_cons, List.map_nil,
    if_neg hblock, if_true]

/-- The frame of a message is in lockstep with that for the new label of the side. -/
theorem lockstep_drawFrame (wrapper : NodeId) (presentation : Presentation)
    (message : MessageInstruction) :
    (drawFrame wrapper presentation message).Lockstep rename (Element.relabel p)
      (fun box box' ↦ box' = rename box)
      (drawFrame (rename wrapper) presentation (message.relabel p)) := by
  apply (lockstep_newChild (Element.relabel_messageWrapper p message.side).symm).bind
  rintro outer _ rfl
  have hattributes : (message.attributes.forM fun entry ↦
      change outer (.attribute entry.1 entry.2)).Lockstep rename (Element.relabel p) Eq
      (message.attributes.forM fun entry ↦
        change (rename outer) (.attribute entry.1 entry.2)) :=
    lockstep_forM (fun _ ↦ lockstep_change outer _) message.attributes
  apply hattributes.bind
  intro _ _ _
  apply (lockstep_newChild rfl).bind
  rintro box _ rfl
  exact (lockstep_change box _).bind fun _ _ _ ↦ .done rfl

/-- Title and content go into the box of a message in lockstep. -/
theorem lockstep_fillBubble (bubble : NodeId) (toggles : MarkdownToggles)
    (message : MessageInstruction) (showsTitle : Bool) :
    (fillBubble bubble toggles message showsTitle).Lockstep rename (Element.relabel p) Eq
      (fillBubble (rename bubble) toggles (message.relabel p) showsTitle) := by
  have hcontent : (do
      let _ ← drawText bubble .content Classes.messageContent message.content toggles.content
      pure () : Drawing Unit).Lockstep rename (Element.relabel p) Eq (do
        let _ ← drawText (rename bubble) .content Classes.messageContent message.content
          toggles.content
        pure ()) :=
    (lockstep_drawText rename p bubble (fun _ ↦ rfl) _ _ _).bind fun _ _ _ ↦ .done rfl
  cases showsTitle with
  | false => exact hcontent
  | true =>
    exact (lockstep_drawText rename p bubble (fun _ ↦ rfl) _ _ _).bind fun _ _ _ ↦ hcontent

/-- A comment is in lockstep. -/
theorem lockstep_drawComment (wrapper : NodeId) (presentation : Presentation) (content : String) :
    (drawComment wrapper presentation content).Lockstep rename (Element.relabel p) Eq
      (drawComment (rename wrapper) presentation content) := by
  apply (lockstep_newChild rfl).bind
  rintro outer _ rfl
  apply (lockstep_drawText rename p outer (fun _ ↦ rfl) _ _ _).bind
  rintro body _ rfl
  exact lockstep_change body _

/-- A row of dots is in lockstep. -/
theorem lockstep_drawDelimiter (wrapper : NodeId) :
    (drawDelimiter wrapper).Lockstep rename (Element.relabel p) Eq
      (drawDelimiter (rename wrapper)) := by
  apply (lockstep_newChild rfl).bind
  rintro outer _ rfl
  apply (lockstep_newChild rfl).bind
  rintro row _ rfl
  exact lockstep_forM (fun _ ↦ (lockstep_newChild rfl).bind fun _ _ _ ↦ .done rfl) _

/-- A line of no known shape is in lockstep. -/
theorem lockstep_drawUnparsed (wrapper : NodeId) (content : String) :
    (drawUnparsed wrapper content).Lockstep rename (Element.relabel p) Eq
      (drawUnparsed (rename wrapper) content) := by
  apply (lockstep_newChild rfl).bind
  rintro node _ rfl
  exact lockstep_change node _

/-! ### Whole scripts -/

namespace Session

/-- An instruction is drawn in lockstep in a relabelled session. -/
theorem lockstep_draw (session : Session) (wrapper : NodeId) (instruction : Instruction) :
    (session.draw wrapper instruction).Lockstep rename (Element.relabel p)
      (fun drawn drawn' ↦ drawn' = (drawn.1.relabel p, drawn.2.map rename))
      ((session.relabel p).draw (rename wrapper) (instruction.relabel p)) := by
  cases instruction with
  | message message =>
    apply (lockstep_drawFrame rename p wrapper _ message).bind
    rintro bubble _ rfl
    let mode := session.presentation.titleMode
    have hfill : (fillBubble bubble session.presentation.markdown message
        (session.showsTitle message.side mode)).Lockstep rename (Element.relabel p) Eq
        (fillBubble (rename bubble) session.presentation.markdown (message.relabel p)
          ((session.relabel p).showsTitle (p message.side) mode)) := by
      rw [session.showsTitle_relabel]
      exact lockstep_fillBubble rename p bubble _ message _
    apply hfill.bind
    intro _ _ _
    exact .done (Prod.ext (session.afterMessage_relabel p _ _) rfl)
  | comment content =>
    exact (lockstep_drawComment rename p wrapper _ content).bind fun _ _ _ ↦ .done rfl
  | delimiter => exact (lockstep_drawDelimiter rename p wrapper).bind fun _ _ _ ↦ .done rfl
  | unparsed content =>
    exact (lockstep_drawUnparsed rename p wrapper content).bind fun _ _ _ ↦ .done rfl

/-- A step is drawn in lockstep in a relabelled session. -/
theorem lockstep_drawStep (session : Session) (wrapper : NodeId) (step : Step) :
    (session.drawStep wrapper step).Lockstep rename (Element.relabel p)
      (fun drawn drawn' ↦ drawn' = (drawn.1.relabel p, drawn.2.map (·.rename rename)))
      ((session.relabel p).drawStep (rename wrapper) (step.relabel p)) := by
  cases step with
  | nothing => exact .done rfl
  | attachFooter content => exact .done rfl
  | render instruction =>
    cases instruction with
    | message message =>
      apply (session.lockstep_draw rename p wrapper (.message message)).bind
      rintro ⟨after, bubble⟩ _ rfl
      exact .done (by cases bubble <;> rfl)
    | _ =>
      apply (session.lockstep_draw rename p wrapper _).bind
      rintro drawn _ rfl
      exact .done rfl

end Session

/-- A footer goes into the box that waits in lockstep. -/
theorem lockstep_settleFooter (pending : PendingFooter) (explicit : Option String) :
    (settleFooter pending explicit).Lockstep rename (Element.relabel p) Eq
      (settleFooter (pending.map (·.rename rename)) explicit) := by
  have hresolve : PendingFooter.resolve (pending.map (·.rename rename)) explicit =
      (pending.resolve explicit).map fun settled ↦ (settled.1.rename rename, settled.2) := by
    cases pending with
    | none => rfl
    | some message =>
      simp only [PendingFooter.resolve, Option.map_some, Option.bind_eq_bind, Option.bind_some,
        PendingMessage.rename]
      cases explicit <|> message.defaultFooter <;> rfl
  unfold settleFooter
  rw [hresolve]
  cases pending.resolve explicit with
  | none => exact .done rfl
  | some settled =>
    exact (lockstep_drawText rename p settled.1.bubble (fun _ ↦ rfl) _ _ _).bind
      fun _ _ _ ↦ .done rfl

namespace Progress

/-- A line is drawn in lockstep with the relabelled line. -/
theorem lockstep_drawLine (wrapper : NodeId) (sourceId : Nat) (progress : Progress) (line : Line) :
    (progress.drawLine wrapper sourceId line).Lockstep rename (Element.relabel p)
      (fun after after' ↦ after' = after.relabel rename p)
      ((progress.relabel rename p).drawLine (rename wrapper) sourceId (line.relabel p)) := by
  have heffect : (progress.relabel rename p).session.execute (line.relabel p) =
      (progress.session.execute line).relabel p := progress.session.execute_relabel p line
  have hattachment : ((progress.session.execute line).relabel p).step.attachment? =
      (progress.session.execute line).step.attachment? := by
    cases h : (progress.session.execute line).step <;> simp only [Effect.relabel, h] <;> rfl
  have hfaults : (progress.relabel rename p).faults ((progress.session.execute line).relabel p) =
      progress.faults (progress.session.execute line) := by
    simp only [faults, hattachment]
    cases h : progress.pending <;> simp only [relabel, h] <;> rfl
  simp only [drawLine, heffect, hfaults, hattachment]
  apply (Session.lockstep_drawStep rename p _ wrapper _).bind
  rintro ⟨session, pending⟩ _ rfl
  exact (lockstep_settleFooter rename p progress.pending _).bind fun _ _ _ ↦ .done rfl

/-- Consecutive lines are drawn in lockstep with the relabelled lines. -/
theorem lockstep_drawLines (wrapper : NodeId) (sourceId : Nat) (lines : List Line)
    (progress : Progress) :
    (lines.foldlM (drawLine wrapper sourceId) progress).Lockstep rename (Element.relabel p)
      (fun after after' ↦ after' = after.relabel rename p)
      ((lines.map (Line.relabel p)).foldlM (drawLine (rename wrapper) sourceId)
        (progress.relabel rename p)) := by
  induction lines generalizing progress with
  | nil => exact .done rfl
  | cons line rest ih =>
    rw [List.map_cons, List.foldlM_cons, List.foldlM_cons]
    apply (lockstep_drawLine rename p wrapper sourceId progress line).bind
    rintro after _ rfl
    exact ih after

end Progress

/-- A script is drawn in lockstep with the relabelled script below a root of another name. -/
theorem Script.lockstep_draw (script : Script) (config : Config) (root : NodeId) :
    (script.draw config root).Lockstep rename (Element.relabel p) Eq
      ((script.relabel p).draw (config.relabel p) (rename root)) := by
  apply (lockstep_newChild rfl).bind
  rintro wrapper _ rfl
  rw [Session.ofConfig_relabel]
  apply (Progress.lockstep_drawLines rename p wrapper script.sourceId script.lines _).bind
  rintro progress _ rfl
  exact (lockstep_settleFooter rename p progress.pending none).bind fun _ _ _ ↦ .done rfl

end Colloquy
