import Colloquy.ElementTree.Basic
import Colloquy.Proofs.Resemblance
import Colloquy.Render.Classes
import Colloquy.Session.Execute

/-!
# Sketches of a dialogue

A sketch says what a script looks like without drawing it. It walks the directives from left to
right with the session in force at each of them, and may look at the directive of the next line:
a message knows its footer at once, and nothing is ever added to a finished block.

A sketched node says how it is inscribed. What markdown source becomes is left open; an element
depicts a sketched node when its content is one that the inscription admits.
-/

namespace Colloquy

/-! ### Sketched nodes -/

/-- What a node is inscribed with. -/
inductive Inscription where
  | blank
  | verbatim (text : String)
  /-- What the markdown renderer makes of a source. -/
  | markdown (source : String)
  deriving DecidableEq, Repr

/-- A node by itself: its marks and its inscription. -/
structure Sketch where
  role : Role
  classes : List String
  attributes : Properties := []
  styles : Properties := []
  inscription : Inscription := .blank
  deriving DecidableEq, Repr

namespace Inscription

/-- The contents that an inscription admits, when markdown sources become allowed contents. -/
def Admits (allowed : String → Option Content → Prop) : Inscription → Option Content → Prop
  | .blank, content => content = none
  | .verbatim text, content => content = some (.text text)
  | .markdown source, content => allowed source content

/-- The content of an inscription, when every markdown source becomes one content. -/
def content (written : String → Option Content) : Inscription → Option Content
  | .blank => none
  | .verbatim text => some (.text text)
  | .markdown source => written source

/-- One content for every source leaves one content for every inscription. -/
theorem admits_iff {written : String → Option Content} {inscription : Inscription}
    {content : Option Content} :
    inscription.Admits (fun source content ↦ content = written source) content ↔
      content = inscription.content written := by
  cases inscription <;> rfl

end Inscription

namespace Sketch

/-- The element of a sketched node, with a content. -/
def element (sketch : Sketch) (content : Option Content) : Element :=
  ⟨sketch.role, sketch.classes, sketch.attributes, sketch.styles, content, []⟩

/-- The element looks as sketched. -/
def DepictedBy (allowed : String → Option Content → Prop) (sketch : Sketch)
    (element : Element) : Prop :=
  ∃ content, sketch.inscription.Admits allowed content ∧ element = sketch.element content

/-- A node that shows a text, either verbatim or through the markdown renderer. -/
def ofText (role : Role) (className text : String) (markdown : Bool) : Sketch :=
  if markdown then
    { role, classes := [className, Classes.render], inscription := .markdown text }
  else { role, classes := [className], inscription := .verbatim text }

/-- What depicts a sketched node has no children yet. -/
theorem DepictedBy.children_eq {allowed : String → Option Content → Prop} {sketch : Sketch}
    {element : Element} (h : sketch.DepictedBy allowed element) : element.children = [] := by
  obtain ⟨content, -, rfl⟩ := h
  rfl

/-- What depicts a sketched node has its role. -/
theorem DepictedBy.role_eq {allowed : String → Option Content → Prop} {sketch : Sketch}
    {element : Element} (h : sketch.DepictedBy allowed element) : element.role = sketch.role := by
  obtain ⟨content, -, rfl⟩ := h
  rfl

/-- What depicts a sketched node has its attributes. -/
theorem DepictedBy.attributes_eq {allowed : String → Option Content → Prop} {sketch : Sketch}
    {element : Element} (h : sketch.DepictedBy allowed element) :
    element.attributes = sketch.attributes := by
  obtain ⟨content, -, rfl⟩ := h
  rfl

/-- A blank node is depicted by its new element. -/
theorem depictedBy_blank (allowed : String → Option Content → Prop) {sketch : Sketch}
    (h : sketch.inscription = .blank) : sketch.DepictedBy allowed (sketch.element none) := by
  refine ⟨none, ?_, rfl⟩
  rw [h]
  rfl

end Sketch

/-- Elements, each below a handle, look as sketched. -/
def Forest.Depicts (allowed : String → Option Content → Prop)
    (drawn : Forest (NodeId × Element)) (sketch : Forest Sketch) : Prop :=
  drawn.Related (fun entry node ↦ node.DepictedBy allowed entry.2) sketch

/-- When every source becomes one content, elements that look as sketched are those of the sketch
with these contents. -/
theorem Forest.Depicts.map_snd_eq {written : String → Option Content}
    {drawn : Forest (NodeId × Element)} {sketch : Forest Sketch}
    (h : drawn.Depicts (fun source content ↦ content = written source) sketch) :
    drawn.map Prod.snd = sketch.map fun node ↦ node.element (node.inscription.content written) := by
  apply Related.eq_map
  rw [related_map_left]
  apply h.mono
  rintro entry node ⟨content, hcontent, hentry⟩
  rw [hentry, Inscription.admits_iff.mp hcontent]

/-! ### Sketched lines -/

/-- A single node that may be missing. -/
def Forest.optional {α : Type} : Option α → Forest α
  | none => .nil
  | some label => .cons label .nil .nil

namespace Sketch

/-- A comment in its wrapper. -/
def comment (presentation : Presentation) (content : String) : Forest Sketch :=
  let body := ofText .commentBody Classes.comment content presentation.markdown.comment
  .cons { role := .comment, classes := [Classes.blockWrapper, Classes.commentWrapper] }
    (.cons { body with styles := [("max-width", presentation.commentMaxWidth)] } .nil .nil) .nil

/-- A number of dots. -/
def dots : Nat → Forest Sketch
  | 0 => .nil
  | count + 1 =>
    .cons { role := .delimiterDot, classes := [Classes.delimiterDot] } .nil (dots count)

/-- A row of three dots. -/
def delimiter : Forest Sketch :=
  .cons { role := .delimiter, classes := [Classes.blockWrapper, Classes.delimiterWrapper] }
    (.cons { role := .delimiterLine, classes := [Classes.delimiter] } (dots 3) .nil) .nil

/-- A line of no known shape, as it is. -/
def unparsed (content : String) : Forest Sketch :=
  .cons (ofText .unparsed Classes.unparsed content false) .nil .nil

/-- The attributes that name a participant: the title unless it is empty, and the identity. -/
def participant (title : String) (id : Option String) : Properties :=
  (if title = "" then [] else [("data-participant", title)]) ++
    id.toList.map fun id ↦ ("data-participant-id", id)

/-- The first attribute is the title, unless that is empty. -/
theorem get?_participant_title (title : String) (id : Option String) :
    (participant title id).get? "data-participant" = if title = "" then none else some title := by
  unfold participant
  by_cases htitle : title = ""
  · cases id <;> simp [htitle, Properties.get?]
  · cases id <;> simp [htitle, Properties.get?]

/-- The second attribute is the identity. -/
theorem get?_participant_id (title : String) (id : Option String) :
    (participant title id).get? "data-participant-id" = id := by
  unfold participant
  by_cases htitle : title = ""
  · cases id <;> simp [htitle, Properties.get?]
  · cases id <;> simp [htitle, Properties.get?]

/-- The wrapper of a message. -/
def frame (side : Side) (attributes : Properties) : Sketch where
  role := .message side
  classes := [Classes.blockWrapper, Classes.messageWrapper side]
  attributes := attributes

/-- The box of a message. -/
def bubble (maxWidth : String) : Sketch where
  role := .bubble
  classes := [Classes.message]
  styles := [("max-width", maxWidth)]

/-- A message: a box in a wrapper, with an optional title, the content and an optional footer. -/
def message (frame bubble : Sketch) (title : Option Sketch) (content : Sketch)
    (footer : Option Sketch) : Forest Sketch :=
  let inside := .optional title ++ .optional (some content) ++ .optional footer
  .cons frame (.cons bubble inside .nil) .nil

/-- The title of a message. -/
def title (toggles : MarkdownToggles) (text : String) : Sketch :=
  ofText .title Classes.messageTitle text toggles.title

/-- The content of a message. -/
def content (toggles : MarkdownToggles) (text : String) : Sketch :=
  ofText .content Classes.messageContent text toggles.content

/-- The footer of a message. -/
def footer (markdown : Bool) (text : String) : Sketch :=
  ofText .footer Classes.messageFooter text markdown

end Sketch

namespace Session

/-- The session after a line of a directive, drawn if it is to be drawn. -/
def advance (session : Session) : Directive → Session
  | .title side title enforcedId => session.retitle side title enforcedId
  | .footerDefault side content => { session with footers := session.footers.set side content }
  | .setting setting value => (session.applySetting setting value).1
  | .message side _ =>
    (session.register (session.participants.get side).title).afterMessage side
      session.presentation.titleMode
  | _ => session

/-- The session that some lines lead to from a configuration. -/
def after (config : Config) (directives : List Directive) : Session :=
  directives.foldl advance (ofConfig config)

/-- The identity of a message of a side: the enforced one, or the number that the title has once it
is registered. -/
def messageId? (session : Session) (side : Side) : Option String :=
  let participant := session.participants.get side
  let registry := session.registry.register participant.title
  participant.enforcedId <|> (registry.ordinal? participant.title).map toString

/-- A message of a side whose footer is settled. -/
def sketchMessage (session : Session) (side : Side) (content : String) (footer : Option String) :
    Forest Sketch :=
  let participant := session.participants.get side
  let presentation := session.presentation
  let title :=
    if participant.showsTitle presentation.titleMode then
      some (Sketch.title presentation.markdown participant.title)
    else none
  Sketch.message (.frame side (Sketch.participant participant.title (session.messageId? side)))
    (.bubble presentation.messageMaxWidth) title (.content presentation.markdown content)
    (footer.map (.footer presentation.markdown.footer))

/-- The footer of a message of a side, given the directive of the next line: the one that is
attached there, even an empty one, else the default footer that is in force at the message. -/
def footerGiven (session : Session) (side : Side) (next : Option Directive) : Option String :=
  match next with
  | some (.footerAttachment content) => some content
  | _ =>
    if session.presentation.footerMode = .all ∧ session.footers.get side ≠ "" then
      some (session.footers.get side)
    else none

/-- What a line of a directive looks like, given the directive of the next line. -/
def sketchLine (session : Session) (next : Option Directive) : Directive → Forest Sketch
  | .message side content => session.sketchMessage side content (session.footerGiven side next)
  | .comment content => Sketch.comment session.presentation content
  | .delimiter => Sketch.delimiter
  | .unparsed content => if session.presentation.clean then .nil else Sketch.unparsed content
  | _ => .nil

/-- What consecutive lines look like, in their order. -/
def sketch (session : Session) : List Directive → Forest Sketch
  | [] => .nil
  | directive :: rest =>
    session.sketchLine rest.head? directive ++ (session.advance directive).sketch rest

end Session

end Colloquy
