import Colloquy.Proofs.History
import Colloquy.Proofs.Lookahead

/-!
# Drawn messages

The message lines of a script and the messages of its drawing correspond one to one, in their order.
A message line is known with the lines before it, since these decide what its message looks like.
-/

namespace Colloquy

/-- Whether the role is that of a message. -/
def Role.isMessage : Role → Bool
  | .message _ => true
  | _ => false

/-- The messages of a forest in document order, each with what is below it. -/
def Forest.messages {α : Type} (role : α → Role) (forest : Forest α) : List (α × Forest α) :=
  forest.subtrees.filter fun node ↦ (role node.1).isMessage

/-- Elements without handles look as sketched. -/
def Forest.LooksLike (allowed : String → Option Content → Prop) (drawn : Forest Element)
    (sketch : Forest Sketch) : Prop :=
  drawn.Related (fun element node ↦ node.DepictedBy allowed element) sketch

/-- A message line with the lines before it. -/
structure MessageLine where
  past : List Directive
  side : Side
  content : String
  deriving DecidableEq, Repr

namespace MessageLine

/-- The message line that a directive stands for after some lines. -/
def ofDirective? (past : List Directive) : Directive → Option MessageLine
  | .message side content => some ⟨past, side, content⟩
  | _ => none

/-- The message lines among consecutive lines that follow some others. -/
def listAfter (past : List Directive) : List Directive → List MessageLine
  | [] => []
  | directive :: rest =>
    (ofDirective? past directive).toList ++ listAfter (past ++ [directive]) rest

/-- The session in which the line is executed. -/
def session (config : Config) (line : MessageLine) : Session := .after config line.past

/-- The title that the side of the line has there. -/
def title (config : Config) (line : MessageLine) : String := config.titleAfter line.past line.side

/-- The message of the line is sketched in the session of the line, with some footer. -/
def SketchedAs (config : Config) (line : MessageLine) (message : Sketch × Forest Sketch) : Prop :=
  ∃ footer, .cons message.1 message.2 .nil =
    (line.session config).sketchMessage line.side line.content footer

/-- The message of the line looks as sketched in the session of the line, with some footer. -/
def DrawnAs (config : Config) (allowed : String → Option Content → Prop) (line : MessageLine)
    (message : Element × Forest Element) : Prop :=
  ∃ footer, (Forest.cons message.1 message.2 .nil).LooksLike allowed
    ((line.session config).sketchMessage line.side line.content footer)

end MessageLine

/-- The message lines of a script. -/
def Script.messageLines (script : Script) : List MessageLine :=
  MessageLine.listAfter [] script.directives

/-! ### Sketched messages -/

namespace Forest

variable {α : Type}

@[simp]
theorem messages_append (role : α → Role) (first later : Forest α) :
    (first ++ later).messages role = first.messages role ++ later.messages role := by
  simp only [messages, subtrees_append, List.filter_append]

/-- A node that is no message shows the messages below it. -/
theorem messages_cons_of_not {role : α → Role} {label : α} (h : (role label).isMessage = false)
    (children siblings : Forest α) :
    (cons label children siblings).messages role =
      children.messages role ++ siblings.messages role := by
  simp only [messages, subtrees, List.filter_append, List.filter_cons, h, Bool.false_eq_true,
    if_false]

/-- A message shows itself before the messages below it. -/
theorem messages_cons_of {role : α → Role} {label : α} (h : (role label).isMessage = true)
    (children siblings : Forest α) :
    (cons label children siblings).messages role =
      (label, children) :: (children.messages role ++ siblings.messages role) := by
  simp only [messages, subtrees, List.filter_append, List.filter_cons, h, if_true]

end Forest

namespace Sketch

@[simp]
theorem role_ofText (role : Role) (className text : String) (markdown : Bool) :
    (ofText role className text markdown).role = role := by
  cases markdown <;> rfl

/-- A single node that is no message shows none. -/
theorem messages_optional {sketch : Option Sketch}
    (h : ∀ node ∈ sketch, node.role.isMessage = false) :
    (Forest.optional sketch).messages Sketch.role = [] := by
  cases sketch with
  | none => rfl
  | some node => exact Forest.messages_cons_of_not (h node rfl) .nil .nil

end Sketch

namespace Session

/-- A message is sketched as one message, with nothing in it that is another. -/
theorem messages_sketchMessage (session : Session) (side : Side) (content : String)
    (footer : Option String) :
    ∃ node below, session.sketchMessage side content footer = .cons node below .nil ∧
      (session.sketchMessage side content footer).messages Sketch.role = [(node, below)] := by
  refine ⟨_, _, rfl, ?_⟩
  rw [sketchMessage, Sketch.message, Forest.messages_cons_of rfl, Forest.messages_cons_of_not rfl,
    Forest.messages_append, Forest.messages_append, Sketch.messages_optional,
    Sketch.messages_optional, Sketch.messages_optional]
  · rfl
  · intro node hnode
    obtain ⟨text, -, rfl⟩ := Option.map_eq_some_iff.mp hnode
    rw [Sketch.footer, Sketch.role_ofText]
    rfl
  · intro node hnode
    cases hnode
    rw [Sketch.content, Sketch.role_ofText]
    rfl
  · intro node hnode
    split at hnode
    · cases hnode
      rw [Sketch.title, Sketch.role_ofText]
      rfl
    · cases hnode

/-- A line is sketched with a message exactly when it is one. -/
theorem messages_sketchLine (config : Config) (past : List Directive) (next : Option Directive)
    (directive : Directive) :
    List.Forall₂ (MessageLine.SketchedAs config) (MessageLine.ofDirective? past directive).toList
      (((after config past).sketchLine next directive).messages Sketch.role) := by
  cases directive with
  | message side content =>
    obtain ⟨node, below, hsketch, hmessages⟩ := (after config past).messages_sketchMessage side
      content ((after config past).footerGiven side next)
    rw [sketchLine, hmessages]
    exact .cons ⟨_, hsketch.symm⟩ .nil
  | comment content =>
    rw [sketchLine, Sketch.comment, Forest.messages_cons_of_not rfl, Forest.messages_cons_of_not]
    · exact .nil
    · rw [Sketch.role_ofText]
      rfl
  | unparsed content =>
    rw [sketchLine]
    split
    · exact .nil
    · rw [Sketch.unparsed, Forest.messages_cons_of_not]
      · exact .nil
      · rw [Sketch.role_ofText]
        rfl
  | _ => exact .nil

/-- The message lines and the sketched messages correspond one to one. -/
theorem messages_sketch (config : Config) (past directives : List Directive) :
    List.Forall₂ (MessageLine.SketchedAs config) (MessageLine.listAfter past directives)
      (((after config past).sketch directives).messages Sketch.role) := by
  induction directives generalizing past with
  | nil => exact .nil
  | cons directive rest ih =>
    have hrest := ih (past ++ [directive])
    rw [after_append_singleton] at hrest
    rw [sketch, Forest.messages_append]
    exact List.rel_append (messages_sketchLine config past _ directive) hrest

end Session

/-! ### Drawn messages -/

/-- Handles do not matter for the looks. -/
theorem Forest.Depicts.looksLike {allowed : String → Option Content → Prop}
    {drawn : Forest (NodeId × Element)} {sketch : Forest Sketch} (h : drawn.Depicts allowed sketch) :
    (drawn.map Prod.snd).LooksLike allowed sketch := by
  rw [LooksLike, related_map_left]
  exact h

/-- The messages of what looks as sketched are those of the sketch, and look as sketched. -/
theorem Forest.LooksLike.messages {allowed : String → Option Content → Prop}
    {drawn : Forest Element} {sketch : Forest Sketch} (h : drawn.LooksLike allowed sketch) :
    List.Forall₂ (fun message sketched ↦ (cons message.1 message.2 .nil).LooksLike allowed
        (cons sketched.1 sketched.2 .nil))
      (drawn.messages Element.role) (sketch.messages Sketch.role) := by
  have hfilter : List.Forall₂ (fun node node' ↦ node'.1.DepictedBy allowed node.1 ∧
      node.2.LooksLike allowed node'.2) (drawn.messages Element.role)
      (sketch.messages Sketch.role) := by
    apply List.rel_filter _ h.subtrees
    rintro ⟨element, below⟩ ⟨node, below'⟩ ⟨⟨content, -, rfl⟩, -⟩
    rfl
  apply hfilter.imp
  rintro message sketched ⟨hnode, hbelow⟩
  exact .cons hnode hbelow .nil

/-- What looks as sketched has the sketched roles. -/
theorem Forest.LooksLike.roles {allowed : String → Option Content → Prop}
    {drawn : Forest Element} {sketch : Forest Sketch} (h : drawn.LooksLike allowed sketch) :
    drawn.preorder.map Element.role = sketch.preorder.map Sketch.role := by
  induction h with
  | nil => rfl
  | cons hlabel _ _ ihc ihs =>
    obtain ⟨content, -, rfl⟩ := hlabel
    simp only [preorder, List.map_cons, List.map_append, ihc, ihs]
    rfl

/-- A drawn message is its wrapper with one box in it, and in the box are the title, if it is shown,
the content and maybe a footer. -/
theorem MessageLine.DrawnAs.parts {config : Config} {allowed : String → Option Content → Prop}
    {line : MessageLine} {message : Element × Forest Element}
    (h : line.DrawnAs config allowed message) :
    ∃ bubble inside, ∃ footer : Option String,
      (Sketch.frame line.side (Sketch.participant (line.title config)
        ((line.session config).messageId? line.side))).DepictedBy allowed message.1 ∧
      message.2 = .cons bubble inside .nil ∧ bubble.role = .bubble ∧
      inside.LooksLike allowed (.optional (if (line.session config).showsTitle line.side
          (line.session config).presentation.titleMode then
          some (.title (line.session config).presentation.markdown (line.title config)) else none) ++
        .optional (some (.content (line.session config).presentation.markdown line.content)) ++
        .optional (footer.map (.footer (line.session config).presentation.markdown.footer))) := by
  obtain ⟨wrapper, below⟩ := message
  obtain ⟨footer, hlooks⟩ := h
  have htitle : ((line.session config).participants.get line.side).title = line.title config :=
    (Session.recalls_after config line.past).title line.side
  rw [Session.sketchMessage, Sketch.message, htitle] at hlooks
  rcases hlooks with _ | ⟨hwrapper, _ | ⟨⟨content, -, rfl⟩, hinside, hnil⟩, -⟩
  cases hnil
  exact ⟨_, _, footer, hwrapper, rfl, rfl, hinside⟩

/-- Over a reachable tree and with a renderer that writes nothing but allowed contents, the messages
of a drawing that succeeds look as sketched, one for each message line. -/
theorem Script.messages_of_render {τ : Type} {start tree : ElementTree} (hstart : start.Reachable)
    {markdown : MarkdownRenderer (τ × ElementTree)} {context : MarkdownContext}
    {allowed : String → Option Content → Prop} (hmarkdown : markdown.Writes Prod.snd context allowed)
    {script : Script} {config : Config} {memory memory' : τ} {outcome : Outcome}
    (hrun : script.render config (ElementTree.sink.beside τ) markdown context (memory, start) =
      (.ok outcome, (memory', tree))) :
    outcome.registry = (Session.after config script.directives).registry ∧
    ∃ drawn, tree.forest.map Element.bare =
        start.forest.map Element.bare ++ .cons wrapperElement drawn .nil ∧
      List.Forall₂ (MessageLine.DrawnAs config allowed) script.messageLines
        (drawn.messages Element.role) := by
  have hsink : (ElementTree.sink.beside τ).Carries Prod.snd := ElementTree.sink_carries.beside
  have hdraw : (script.draw config ElementTree.root).Ensures allowed _ (memory, start).2 :=
    script.ensures_draw hstart.grown config allowed
  have hperform : (script.draw config ElementTree.root).perform (ElementTree.sink.beside τ) markdown
      context (memory, start) = (.ok outcome, (memory', tree)) := hrun
  rcases hdraw.of_perform hsink hmarkdown with
    ⟨outcome', state', hok, hregistry, below, hcanvas, hdepicts⟩ | ⟨error, state', herror, -⟩
  · cases hok.symm.trans hperform
    refine ⟨hregistry, below.map Prod.snd, hcanvas.forest_eq, ?_⟩
    apply (forall₂_of_common (Session.messages_sketch config [] script.directives)
      hdepicts.looksLike.messages).imp
    rintro line message ⟨sketched, ⟨footer, hfooter⟩, hlooks⟩
    exact ⟨footer, hfooter ▸ hlooks⟩
  · cases herror.symm.trans hperform

end Colloquy
