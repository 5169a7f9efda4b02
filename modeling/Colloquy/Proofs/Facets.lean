import Colloquy.Proofs.Messages
import Colloquy.Proofs.Outcomes

/-!
# Facets of the presentation

The options of a configuration fall into groups, and each group has a part of what is drawn to
itself: the facet of that group. Two sessions that agree but for a facet still do so after any line,
even one that sets an option of the facet, and whatever the line draws looks the same in both once
the facet is erased. Main statement: under configurations that differ in one facet a script has the
same outcome, and the trees are equal once that facet is erased.
-/

namespace Colloquy

/-! ### Forests with nodes left out -/

namespace Forest

variable {α β : Type}

/-- Leaving nodes out goes through joining. -/
theorem filter_append (p : α → Bool) (first later : Forest α) :
    (first ++ later).filter p = first.filter p ++ later.filter p := by
  induction first with
  | nil => rfl
  | cons label children siblings _ ihs =>
    simp only [cons_append, filter, ihs]
    split <;> rfl

end Forest

/-- The element of a sketched node, once it has its content. -/
def Sketch.paint (written : String → Option Content) (sketch : Sketch) : Element :=
  sketch.element (sketch.inscription.content written)

/-! ### Facets -/

/-- A group of options, and the part of a drawing that is the group's own. -/
inductive Facet where
  /-- Whether lines of no known shape are dropped: the nodes of these lines. -/
  | clean
  /-- The title mode: the titles. -/
  | titles
  /-- The footer mode and the default footers: the footers. -/
  | footers
  /-- What goes through markdown: the contents of nodes and the class that marks them. -/
  | markdown
  /-- The widths of messages and comments: the values of styles. -/
  | widths
  deriving DecidableEq, Repr

/-- The element without a content and without the class of those that went through markdown. -/
def Element.unrendered (element : Element) : Element :=
  { element with
    content := none
    classes := element.classes.filter (· ≠ Classes.render) }

/-- The element without the values of its styles. -/
def Element.unstyled (element : Element) : Element :=
  { element with styles := element.styles.map fun style ↦ (style.1, "") }

/-- The participant without the mark that the title was shown. -/
def Participant.unmarked (participant : Participant) : Participant :=
  { participant with renderedOnce := false }

/-- A message changes no more of a participant than that mark. -/
theorem Participant.unmarked_afterMessage (participant : Participant) (mode : TitleMode) :
    (participant.afterMessage mode).unmarked = participant.unmarked := by
  unfold afterMessage
  split <;> rfl

/-- A message on one side changes no more of the participants than the marks. -/
theorem Participant.map_unmarked_modify (participants : PerSide Participant) (side : Side)
    (mode : TitleMode) :
    (participants.modify side (·.afterMessage mode)).map unmarked = participants.map unmarked := by
  cases side <;> simp only [PerSide.modify, PerSide.set, PerSide.get, PerSide.map,
    unmarked_afterMessage]

namespace Facet

/-- The configuration whose options of the facet are those of another one. -/
def adopt : Facet → Config → Config → Config
  | .clean, config, other => { config with presentation.clean := other.presentation.clean }
  | .titles, config, other => { config with presentation.titleMode := other.presentation.titleMode }
  | .footers, config, other =>
    { config with
      footers := other.footers
      presentation.footerMode := other.presentation.footerMode }
  | .markdown, config, other => { config with presentation.markdown := other.presentation.markdown }
  | .widths, config, other =>
    { config with
      presentation.messageMaxWidth := other.presentation.messageMaxWidth
      presentation.commentMaxWidth := other.presentation.commentMaxWidth }

/-- The roles of the nodes that are the facet's own. -/
def owns : Facet → Role → Bool
  | .clean, role => role = .unparsed
  | .titles, role => role = .title
  | .footers, role => role = .footer
  | _, _ => false

/-- An element without what is the facet's own in it. -/
def strip : Facet → Element → Element
  | .markdown, element => element.unrendered
  | .widths, element => element.unstyled
  | _, element => element

/-- What is drawn, without the part that is the facet's own. -/
def erase (facet : Facet) (drawn : Forest Element) : Forest Element :=
  (drawn.filter fun element ↦ !facet.owns element.role).map facet.strip

/-- The presentation with the options of the facet at a fixed value. -/
def dim : Facet → Presentation → Presentation
  | .clean, presentation => { presentation with clean := false }
  | .titles, presentation => { presentation with titleMode := .disabled }
  | .footers, presentation => { presentation with footerMode := .disabled }
  | .markdown, presentation => { presentation with markdown := ⟨false, false, false, false⟩ }
  | .widths, presentation => { presentation with messageMaxWidth := "", commentMaxWidth := "" }

/-- The session with the options of the facet at a fixed value. What the title mode leaves behind,
the marks of the titles that were shown, belongs to its facet. -/
def blur : Facet → Session → Session
  | .titles, session =>
    { session with
      participants := session.participants.map Participant.unmarked
      presentation := dim .titles session.presentation }
  | .footers, session =>
    { session with
      footers := ⟨"", "", ""⟩
      presentation := dim .footers session.presentation }
  | facet, session => { session with presentation := facet.dim session.presentation }

/-- Erasing goes through joining. -/
theorem erase_append (facet : Facet) (first later : Forest Element) :
    facet.erase (first ++ later) = facet.erase first ++ facet.erase later := by
  simp only [erase, Forest.filter_append, Forest.map_append]

/-- A node that is not the facet's own stays where it is, without what is the facet's own in it. -/
theorem erase_cons {facet : Facet} {element : Element} (h : facet.owns element.role = false)
    (children siblings : Forest Element) :
    facet.erase (.cons element children siblings) =
      .cons (facet.strip element) (facet.erase children) (facet.erase siblings) := by
  simp only [erase, Forest.filter, h, Bool.not_false, if_true, Forest.map]

/-- A node that is the facet's own goes with what is below it. -/
theorem erase_cons_of_owns {facet : Facet} {element : Element}
    (h : facet.owns element.role = true) (children siblings : Forest Element) :
    facet.erase (.cons element children siblings) = facet.erase siblings := by
  simp only [erase, Forest.filter, h, Bool.not_true, Bool.false_eq_true, if_false]

/-- A wrapper is never erased. -/
theorem erase_wrapper (facet : Facet) (drawn : Forest Element) :
    facet.erase (.cons wrapperElement drawn .nil) =
      .cons wrapperElement (facet.erase drawn) .nil := by
  cases facet <;> rfl

/-- Setting an option does the same to all but the facet, whatever the facet is set to. -/
theorem map_dim_set (facet : Facet) (presentation : Presentation) (setting : Setting)
    (value : String) :
    (presentation.set setting value).map facet.dim =
      ((facet.dim presentation).set setting value).map facet.dim := by
  cases setting with
  | titleMode =>
    simp only [Presentation.set]
    cases TitleMode.ofName? value with
    | none => rfl
    | some mode => cases facet <;> rfl
  | footerMode =>
    simp only [Presentation.set]
    cases FooterMode.ofName? value with
    | none => rfl
    | some mode => cases facet <;> rfl
  | _ => cases facet <;> rfl

/-! ### One line -/

@[simp]
theorem presentation_blur (facet : Facet) (session : Session) :
    (facet.blur session).presentation = facet.dim session.presentation := by
  cases facet <;> rfl

@[simp]
theorem registry_blur (facet : Facet) (session : Session) :
    (facet.blur session).registry = session.registry := by
  cases facet <;> rfl

@[simp]
theorem title_blur (facet : Facet) (session : Session) (side : Side) :
    ((facet.blur session).participants.get side).title = (session.participants.get side).title := by
  cases facet <;> cases side <;> rfl

@[simp]
theorem enforcedId_blur (facet : Facet) (session : Session) (side : Side) :
    ((facet.blur session).participants.get side).enforcedId =
      (session.participants.get side).enforcedId := by
  cases facet <;> cases side <;> rfl

/-- Blurring twice is blurring once. -/
theorem blur_blur (facet : Facet) (session : Session) :
    facet.blur (facet.blur session) = facet.blur session := by
  cases facet <;> rfl

/-- Configurations that differ in the facet start sessions that differ in the facet. -/
theorem blur_ofConfig_adopt (facet : Facet) (config other : Config) :
    facet.blur (.ofConfig (facet.adopt config other)) = facet.blur (.ofConfig config) := by
  cases facet <;> rfl

/-- After any line, sessions that differ in the facet still differ in nothing else. -/
theorem blur_advance (facet : Facet) (session : Session) (directive : Directive) :
    facet.blur (session.advance directive) =
      facet.blur ((facet.blur session).advance directive) := by
  cases directive with
  | title side title enforcedId => cases facet <;> cases side <;> rfl
  | footerDefault side content => cases facet <;> cases side <;> rfl
  | setting setting value =>
    have hset := facet.map_dim_set session.presentation setting value
    simp only [Session.advance, Session.applySetting, presentation_blur]
    cases hbefore : session.presentation.set setting value with
    | ok presentation =>
      cases hafter : (facet.dim session.presentation).set setting value with
      | ok presentation' =>
        rw [hbefore, hafter] at hset
        have hdim : facet.dim presentation = facet.dim presentation' := Except.ok.inj hset
        cases facet with
        | titles =>
          simp only [blur, hdim]
          rfl
        | _ => simp only [blur, hdim]
      | error fault =>
        rw [hbefore, hafter] at hset
        cases hset
    | error fault =>
      cases hafter : (facet.dim session.presentation).set setting value with
      | ok presentation' =>
        rw [hbefore, hafter] at hset
        cases hset
      | error fault' => exact (facet.blur_blur session).symm
  | message side content =>
    cases facet with
    | titles =>
      simp only [Session.advance, Session.register, Session.afterMessage, blur,
        Participant.map_unmarked_modify]
      cases side <;> rfl
    | _ => rfl
  | _ => exact (facet.blur_blur session).symm

/-! ### What a line draws -/

/-- What is left of a sketch once it is painted and the facet is erased. -/
def residue (facet : Facet) (written : String → Option Content) (sketch : Forest Sketch) :
    Forest Element :=
  facet.erase (sketch.map (Sketch.paint written))

variable (written : String → Option Content)

/-- What is left of joined sketches is what is left of the one and then of the other. -/
theorem residue_append (facet : Facet) (first later : Forest Sketch) :
    facet.residue written (first ++ later) =
      facet.residue written first ++ facet.residue written later := by
  simp only [residue, Forest.map_append, erase_append]

/-- Nothing is left of a single node that is the facet's own. -/
theorem residue_optional_of_owns {facet : Facet} {sketch : Option Sketch}
    (h : ∀ node ∈ sketch, facet.owns node.role = true) :
    facet.residue written (.optional sketch) = .nil := by
  cases sketch with
  | none => rfl
  | some node => exact erase_cons_of_owns (h node rfl) _ _

/-- A text leaves the same whether it goes through markdown or not, once contents and the class of
markdown are erased. -/
theorem strip_paint_ofText (role : Role) (className text : String) (markdown markdown' : Bool) :
    strip .markdown ((Sketch.ofText role className text markdown).paint written) =
      strip .markdown ((Sketch.ofText role className text markdown').paint written) := by
  cases markdown <;> cases markdown' <;>
    simp [Sketch.ofText, Sketch.paint, Sketch.element, strip, Element.unrendered, List.filter_cons]

/-- Texts that may be missing leave the same whether they go through markdown or not. -/
theorem residue_optional_ofText (role : Role) (className : String) (text : Option String)
    (markdown markdown' : Bool) :
    residue .markdown written (.optional (text.map (Sketch.ofText role className · markdown))) =
      residue .markdown written
        (.optional (text.map (Sketch.ofText role className · markdown'))) := by
  cases text with
  | none => rfl
  | some text =>
    simp only [residue, Option.map_some, Forest.optional, Forest.map]
    rw [erase_cons rfl, erase_cons rfl, strip_paint_ofText]

/-- Messages leave the same if their parts do. -/
theorem residue_message_congr {facet : Facet} {side : Side} {attributes : Properties}
    {width width' : String} {title title' footer footer' : Option Sketch}
    {content content' : Sketch}
    (hwidth : facet = .widths ∨ width = width')
    (htitle : facet.residue written (.optional title) = facet.residue written (.optional title'))
    (hcontent : facet.residue written (.optional (some content)) =
      facet.residue written (.optional (some content')))
    (hfooter : facet.residue written (.optional footer) =
      facet.residue written (.optional footer')) :
    facet.residue written
        (Sketch.message (.frame side attributes) (.bubble width) title content footer) =
      facet.residue written
        (Sketch.message (.frame side attributes) (.bubble width') title' content' footer') := by
  have hframe : ∀ inside, facet.residue written (.cons (.frame side attributes) inside .nil) =
      .cons (facet.strip ((Sketch.frame side attributes).paint written))
        (facet.residue written inside) .nil := fun inside ↦
    erase_cons (by cases facet <;> rfl) _ _
  have hbubble : ∀ width inside, facet.residue written (.cons (.bubble width) inside .nil) =
      .cons (facet.strip ((Sketch.bubble width).paint written)) (facet.residue written inside)
        .nil := fun width inside ↦
    erase_cons (by cases facet <;> rfl) _ _
  have hstrip : facet.strip ((Sketch.bubble width).paint written) =
      facet.strip ((Sketch.bubble width').paint written) := by
    rcases hwidth with rfl | rfl <;> rfl
  simp only [Sketch.message, hframe, hbubble, hstrip, residue_append, htitle, hcontent, hfooter]

/-- A message has the same identity in sessions that differ in the facet. -/
theorem messageId?_blur (facet : Facet) (session : Session) (side : Side) :
    (facet.blur session).messageId? side = session.messageId? side := by
  simp only [Session.messageId?, title_blur, enforcedId_blur, registry_blur]

/-- Without titles nothing is left of a title. -/
theorem residue_titles_title (shows : Bool) (toggles : MarkdownToggles) (text : String) :
    residue .titles written
      (.optional (if shows then some (Sketch.title toggles text) else none)) = .nil := by
  apply residue_optional_of_owns
  intro node hnode
  split at hnode
  · cases hnode
    simp [Sketch.title, owns]
  · cases hnode

/-- Without markdown a title leaves the same under all toggles. -/
theorem residue_markdown_title (shows : Bool) (toggles toggles' : MarkdownToggles)
    (text : String) :
    residue .markdown written
        (.optional (if shows then some (Sketch.title toggles text) else none)) =
      residue .markdown written
        (.optional (if shows then some (Sketch.title toggles' text) else none)) := by
  cases shows with
  | false => rfl
  | true => exact residue_optional_ofText written _ _ (some text) _ _

/-- Without footers nothing is left of a footer. -/
theorem residue_footers_footer (text : Option String) (markdown : Bool) :
    residue .footers written (.optional (text.map (Sketch.footer markdown))) = .nil := by
  apply residue_optional_of_owns
  intro node hnode
  obtain ⟨text, -, rfl⟩ := Option.map_eq_some_iff.mp hnode
  simp [Sketch.footer, owns]

/-- A message leaves the same in sessions that differ in the facet. -/
theorem residue_sketchMessage (facet : Facet) (session : Session) (side : Side)
    (content : String) (next : Option Directive) :
    facet.residue written
        (session.sketchMessage side content (session.footerGiven side next)) =
      facet.residue written ((facet.blur session).sketchMessage side content
        ((facet.blur session).footerGiven side next)) := by
  simp only [Session.sketchMessage, title_blur, messageId?_blur]
  apply residue_message_congr
  case hwidth =>
    cases facet with
    | widths => exact .inl rfl
    | _ => exact .inr rfl
  case htitle =>
    cases facet with
    | titles => rw [residue_titles_title, residue_titles_title]
    | markdown => exact residue_markdown_title written _ _ _ _
    | _ => rfl
  case hcontent =>
    cases facet with
    | markdown => exact residue_optional_ofText written _ _ (some content) _ _
    | _ => rfl
  case hfooter =>
    cases facet with
    | footers => rw [residue_footers_footer, residue_footers_footer]
    | markdown => exact residue_optional_ofText written _ _ _ _ _
    | _ => rfl

/-- A comment leaves the same in sessions that differ in the facet. -/
theorem residue_comment (facet : Facet) (session : Session) (content : String) :
    facet.residue written (Sketch.comment session.presentation content) =
      facet.residue written (Sketch.comment (facet.blur session).presentation content) := by
  cases facet with
  | markdown =>
    rw [presentation_blur, dim, Sketch.comment, Sketch.comment]
    cases session.presentation.markdown.comment <;> rfl
  | _ => rfl

/-- Without lines of no known shape nothing is left of one. -/
theorem residue_clean_unparsed (clean : Bool) (content : String) :
    residue .clean written (if clean then .nil else Sketch.unparsed content) = .nil := by
  cases clean <;> rfl

/-- A line leaves the same in sessions that differ in the facet. -/
theorem residue_sketchLine (facet : Facet) (session : Session) (next : Option Directive)
    (directive : Directive) :
    facet.residue written (session.sketchLine next directive) =
      facet.residue written ((facet.blur session).sketchLine next directive) := by
  cases directive with
  | message side content => exact facet.residue_sketchMessage written session side content next
  | comment content => exact facet.residue_comment written session content
  | unparsed content =>
    cases facet with
    | clean =>
      rw [Session.sketchLine, Session.sketchLine, residue_clean_unparsed, residue_clean_unparsed]
    | _ => rfl
  | _ => rfl

/-! ### All lines -/

/-- After consecutive lines, sessions that differ in the facet still differ in nothing else. -/
theorem blur_foldl_advance {facet : Facet} {session other : Session}
    (h : facet.blur session = facet.blur other) (directives : List Directive) :
    facet.blur (directives.foldl Session.advance session) =
      facet.blur (directives.foldl Session.advance other) := by
  induction directives generalizing session other with
  | nil => exact h
  | cons directive rest ih =>
    apply ih
    rw [blur_advance, h, ← blur_advance]

/-- Consecutive lines leave the same in sessions that differ in the facet. -/
theorem residue_sketch {facet : Facet} {session other : Session}
    (h : facet.blur session = facet.blur other) (directives : List Directive) :
    facet.residue written (session.sketch directives) =
      facet.residue written (other.sketch directives) := by
  induction directives generalizing session other with
  | nil => rfl
  | cons directive rest ih =>
    have hadvance : facet.blur (session.advance directive) = facet.blur (other.advance directive) :=
      blur_foldl_advance h [directive]
    rw [Session.sketch, Session.sketch, residue_append, residue_append, ih hadvance,
      residue_sketchLine, h, ← residue_sketchLine]

end Facet

/-- A drawing with a renderer that fills nodes comes to its end with the outcome of the script, and
adds a wrapper with the painted sketch to the tree. -/
theorem Script.exists_render_of_fills (script : Script) :
    ∃ warnings : List Warning, ∀ {start : ElementTree} {markdown : MarkdownRenderer ElementTree}
      {context : MarkdownContext} {written : String → Option Content}, start.Reachable →
      markdown.Fills context written → ∀ config : Config, ∃ tree,
        script.render config ElementTree.sink markdown context start =
          (.ok ⟨warnings, (Session.after config script.directives).registry⟩, tree) ∧
        tree.forest.map Element.bare =
          start.forest.map Element.bare ++ .cons wrapperElement
            (((Session.ofConfig config).sketch script.directives).map (Sketch.paint written))
            .nil := by
  refine ⟨warningsFrom script.sourceId none script.lines, ?_⟩
  intro start markdown context written hstart hmarkdown config
  have hdraw := script.ensures_draw hstart.grown config fun source content ↦
    content = written source
  rcases hdraw.of_perform ElementTree.sink_carries hmarkdown.writes with
    ⟨outcome, tree, hrun, -, below, hcanvas, hdepicts⟩ | ⟨error, tree, -, hraise⟩
  · have hforest := hcanvas.forest_eq
    rw [hdepicts.map_snd_eq] at hforest
    obtain rfl := (script.always_draw config _).of_perform hrun
    exact ⟨tree, hrun, hforest⟩
  · exact absurd hraise (hmarkdown.not_canRaise error)

/-- Under two configurations that differ in the options of one facet, a script has the same warnings
and the same registry, and once that facet is erased it has the same tree, whatever settings the
script has lines for. -/
theorem render_of_adopt_eq {start : ElementTree} (hstart : start.Reachable)
    {markdown : MarkdownRenderer ElementTree} {context : MarkdownContext}
    {written : String → Option Content} (hmarkdown : markdown.Fills context written)
    {facet : Facet} {config other : Config} (hother : facet.adopt config other = other)
    (script : Script) :
    ∃ outcome tree tree',
      script.render config ElementTree.sink markdown context start = (.ok outcome, tree) ∧
      script.render other ElementTree.sink markdown context start = (.ok outcome, tree') ∧
      facet.erase (tree.forest.map Element.bare) = facet.erase (tree'.forest.map Element.bare) := by
  obtain ⟨warnings, hrender⟩ := script.exists_render_of_fills
  obtain ⟨tree, hrun, hforest⟩ := hrender hstart hmarkdown config
  obtain ⟨tree', hrun', hforest'⟩ := hrender hstart hmarkdown other
  have hblur : facet.blur (.ofConfig config) = facet.blur (.ofConfig other) := by
    rw [← hother, facet.blur_ofConfig_adopt]
  have hregistry : (Session.after config script.directives).registry =
      (Session.after other script.directives).registry := by
    have hafter := congrArg Session.registry (facet.blur_foldl_advance hblur script.directives)
    rwa [facet.registry_blur, facet.registry_blur] at hafter
  have hresidue := facet.residue_sketch written hblur script.directives
  refine ⟨_, tree, tree', hrun, hregistry ▸ hrun', ?_⟩
  rw [hforest, hforest', facet.erase_append, facet.erase_append, facet.erase_wrapper,
    facet.erase_wrapper]
  unfold Facet.residue at hresidue
  rw [hresidue]

/-- A script with a line of no known shape and a late footer after each of its messages, which asks
for such lines to be dropped before the second one. -/
def chattyScript : Script where
  lines := [⟨.message .left "a", ⟨0, 2⟩⟩, ⟨.unparsed "what", ⟨3, 7⟩⟩,
    ⟨.footerAttachment "late", ⟨8, 14⟩⟩, ⟨.setting .clean "true", ⟨15, 26⟩⟩,
    ⟨.message .right "b", ⟨27, 29⟩⟩, ⟨.unparsed "so", ⟨30, 32⟩⟩,
    ⟨.footerAttachment "later", ⟨33, 40⟩⟩]
  sourceId := 0

/-- Footers for all messages, and every line shown. -/
def echoingConfig : Config :=
  { Config.default with
    footers := ⟨"sent", "read", ""⟩
    presentation.footerMode := .all }

/-- The same, but lines of no known shape are dropped. -/
def droppingConfig : Config := { echoingConfig with presentation.clean := true }

/-- A dropped line ends the wait for a footer just as a line that is shown does. -/
theorem render_of_adopt_eq_chattyScript :
    ∃ outcome tree tree',
      chattyScript.render echoingConfig ElementTree.sink (.plain ElementTree.sink) ⟨""⟩ .empty =
        (.ok outcome, tree) ∧
      chattyScript.render droppingConfig ElementTree.sink (.plain ElementTree.sink) ⟨""⟩ .empty =
        (.ok outcome, tree') ∧
      Facet.clean.erase (tree.forest.map Element.bare) =
        Facet.clean.erase (tree'.forest.map Element.bare) ∧
      outcome.warnings.map (·.span.start) = [8, 33] ∧ tree.size = 11 ∧ tree'.size = 10 := by
  have hadopt : Facet.clean.adopt echoingConfig droppingConfig = droppingConfig := rfl
  obtain ⟨outcome, tree, tree', hrun, hrun', herase⟩ := render_of_adopt_eq .empty
    (MarkdownRenderer.plain_fills ⟨""⟩) hadopt chattyScript
  have hsize : (chattyScript.render echoingConfig ElementTree.sink (.plain ElementTree.sink) ⟨""⟩
      .empty).2.size = 11 := by decide +kernel
  have hsize' : (chattyScript.render droppingConfig ElementTree.sink (.plain ElementTree.sink) ⟨""⟩
      .empty).2.size = 10 := by decide +kernel
  have hwarnings : (chattyScript.render echoingConfig ElementTree.sink (.plain ElementTree.sink)
      ⟨""⟩ .empty).1.map (·.warnings.map (·.span.start)) = .ok [8, 33] := by decide +kernel
  rw [hrun] at hsize hwarnings
  rw [hrun'] at hsize'
  exact ⟨outcome, tree, tree', hrun, hrun', herase, Except.ok.inj hwarnings, hsize, hsize'⟩

end Colloquy
