import Colloquy.Proofs.Blocks

/-!
# Footers one line ahead

A drawing learns the footer of a message one line late, when the next line is already executed and
drawn; it then goes back to the box of the message. A sketch looks one line ahead instead. Between
two lines the canvas is what is settled, which looks as sketched, and the block of the last line,
which will look as sketched whatever the next line is: that is the invariant of the drawing. Main
statement: a drawing shows its sketch.
-/

namespace Colloquy

open Drawing

/-- The footer that a directive attaches to the message on the line before. -/
def Directive.attachment? : Directive → Option String
  | .footerAttachment content => some content
  | _ => none

namespace PendingFooter

/-- The block of the last line looks as it is to look, given the directive of the next line. If a
message waits, that is once the footer that this settles on is grafted into its box. -/
def Unsettled (allowed : String → Option Content → Prop) (pending : PendingFooter)
    (block : Forest (NodeId × Element)) (finished : Option Directive → Forest Sketch) : Prop :=
  match pending with
  | none => ∀ next, block.Depicts allowed (finished next)
  | some message => message.bubble ∈ block.handles ∧ ∀ next branch,
      branch.Depicts allowed (.optional ((next.bind Directive.attachment? <|>
        message.defaultFooter).map (Sketch.footer message.markdown))) →
      (block.graft message.bubble branch).Depicts allowed (finished next)

end PendingFooter

variable {start tree : ElementTree} {below : Forest (NodeId × Element)}
  {allowed : String → Option Content → Prop}

/-- A block that is gained at once looks the same whatever the next line is. -/
theorem Canvas.Gains.unsettled {sketch : Forest Sketch}
    (h : Gains start below allowed sketch tree) :
    ∃ block, Canvas start tree (below ++ block) ∧
      PendingFooter.Unsettled allowed none block fun _ ↦ sketch := by
  obtain ⟨block, hcanvas, hblock⟩ := h
  exact ⟨block, hcanvas, fun _ ↦ hblock⟩

namespace Session

/-- A message gets the footer of the next line if that attaches one, else the default footer. -/
theorem footerGiven_eq (session : Session) (side : Side) (next : Option Directive) :
    session.footerGiven side next =
      (next.bind Directive.attachment? <|> session.defaultFooter? side) := by
  cases next with
  | none => rfl
  | some directive => cases directive <;> rfl

/-- The step of a line attaches the footer that its directive attaches. -/
theorem attachment?_execute (session : Session) (line : Line) :
    (session.execute line).step.attachment? = line.directive.attachment? := by
  obtain ⟨directive, span⟩ := line
  cases directive with
  | unparsed content =>
    simp only [execute]
    cases session.presentation.clean <;> rfl
  | _ => rfl

/-- A line advances the session, and its block is unsettled as long as the next line is not
known. -/
theorem ensures_drawStep (h : Canvas start tree below) (session : Session) (line : Line) :
    ((session.execute line).session.drawStep ⟨start.size⟩ (session.execute line).step).Ensures
      allowed
      (fun result after ↦ result.1 = session.advance line.directive ∧
        ∃ block, Canvas start after (below ++ block) ∧
          result.2.Unsettled allowed block fun next ↦ session.sketchLine next line.directive)
      tree := by
  obtain ⟨directive, span⟩ := line
  cases directive with
  | comment content =>
    simp only [execute, drawStep, draw, ensures_bind, ensures_pure]
    exact (h.ensures_drawComment _ content).mono fun _ _ hgains ↦ ⟨rfl, hgains.unsettled⟩
  | delimiter =>
    simp only [execute, drawStep, draw, ensures_bind, ensures_pure]
    exact h.ensures_drawDelimiter.mono fun _ _ hgains ↦ ⟨rfl, hgains.unsettled⟩
  | unparsed content =>
    simp only [execute, sketchLine]
    cases session.presentation.clean with
    | true => exact ⟨rfl, h.gains_nil.unsettled⟩
    | false =>
      simp only [Bool.false_eq_true, if_false, drawStep, draw, ensures_bind, ensures_pure]
      exact (h.ensures_drawUnparsed content).mono fun _ _ hgains ↦ ⟨rfl, hgains.unsettled⟩
  | message side content =>
    simp only [execute, drawStep, ensures_bind, ensures_pure]
    apply (h.ensures_drawMessage _ _).mono
    rintro ⟨session', bubble'⟩ after ⟨hsession, bubble, block, hbubble, hcanvas, hmem, hblock⟩
    obtain rfl : bubble' = some bubble := hbubble
    refine ⟨hsession, block, hcanvas, hmem, ?_⟩
    intro next branch hbranch
    simp only [sketchLine, footerGiven_eq]
    exact hblock _ branch hbranch
  | _ => exact ⟨rfl, h.gains_nil.unsettled⟩

end Session

/-- The next line settles the block of the last one. -/
theorem ensures_settleFooter {opened later : Forest (NodeId × Element)}
    (h : Canvas start tree (below ++ (opened ++ later))) {pending : PendingFooter}
    {finished : Option Directive → Forest Sketch}
    (hopened : pending.Unsettled allowed opened finished) (next : Option Directive) :
    (settleFooter pending (next.bind Directive.attachment?)).Ensures allowed
      (fun _ after ↦ ∃ settled, Canvas start after (below ++ (settled ++ later)) ∧
        settled.Depicts allowed (finished next)) tree := by
  cases pending with
  | none => exact ⟨opened, h, hopened next⟩
  | some message =>
    obtain ⟨hmem, hfinished⟩ := hopened
    have hfooter := hfinished next
    simp only [settleFooter, PendingFooter.resolve, Option.bind_eq_bind, Option.bind_some]
    cases hgiven : (next.bind Directive.attachment? <|> message.defaultFooter) with
    | none =>
      rw [hgiven] at hfooter
      have hnothing := hfooter .nil .nil
      rw [Forest.graft_nil] at hnothing
      exact ⟨opened, h, hnothing⟩
    | some footer =>
      rw [hgiven] at hfooter
      have hsize : message.bubble.index < tree.size := by
        apply h.lt_size
        simp only [Forest.handles_append, List.mem_append]
        exact .inr (.inl hmem)
      simp only [Option.bind_some, Option.pure_def, drawFooter, ensures_bind, ensures_pure]
      apply ensures_drawText hsize
      intro element helement
      exact ⟨_, h.adopt_part hmem helement.children_eq, hfooter _ (.leaf helement)⟩

namespace Progress

/-- The drawing has got to some line: what is settled looks as sketched, and the block of the line
before will look as `last` says. -/
def Shows (start : ElementTree) (allowed : String → Option Content → Prop) (progress : Progress)
    (tree : ElementTree) (sketched : Forest Sketch) (last : Option Directive → Forest Sketch) :
    Prop :=
  ∃ settled opened, Canvas start tree (settled ++ opened) ∧ settled.Depicts allowed sketched ∧
    progress.pending.Unsettled allowed opened last

/-- A line settles the block before it and leaves its own. -/
theorem Shows.ensures_drawLine {progress : Progress} {sketched : Forest Sketch}
    {last : Option Directive → Forest Sketch} (h : progress.Shows start allowed tree sketched last)
    (sourceId : Nat) (line : Line) :
    (progress.drawLine ⟨start.size⟩ sourceId line).Ensures allowed
      (fun after tree' ↦ after.session = progress.session.advance line.directive ∧
        after.Shows start allowed tree' (sketched ++ last (some line.directive))
          fun next ↦ progress.session.sketchLine next line.directive) tree := by
  obtain ⟨settled, opened, hcanvas, hsettled, hopened⟩ := h
  simp only [drawLine, ensures_bind, ensures_pure, Session.attachment?_execute]
  apply (Session.ensures_drawStep hcanvas progress.session line).mono
  rintro ⟨session, pending⟩ middle ⟨hsession, block, hblock, hpending⟩
  rw [Forest.append_assoc] at hblock
  apply (ensures_settleFooter hblock hopened (some line.directive)).mono
  rintro _ after ⟨closed, hclosed, hlast⟩
  rw [← Forest.append_assoc] at hclosed
  exact ⟨hsession, _, block, hclosed, hsettled.append hlast, hpending⟩

/-- Consecutive lines are drawn as they are sketched, up to the block of the last one. -/
theorem Shows.ensures_drawLines {progress : Progress} {sketched : Forest Sketch}
    {last : Option Directive → Forest Sketch} (h : progress.Shows start allowed tree sketched last)
    (sourceId : Nat) (lines : List Line) :
    (lines.foldlM (drawLine ⟨start.size⟩ sourceId) progress).Ensures allowed
      (fun after tree' ↦
        after.session = (lines.map (·.directive)).foldl Session.advance progress.session ∧
        ∃ sketched' last', after.Shows start allowed tree' sketched' last' ∧
          sketched' ++ last' none = sketched ++ (last (lines.map (·.directive)).head? ++
            progress.session.sketch (lines.map (·.directive)))) tree := by
  -- The block of the last line goes from one step to the next as `last`; a line settles the one
  -- before it, so the sketch of the rest starts with its directive.
  induction lines generalizing progress sketched last tree with
  | nil =>
    refine ⟨rfl, sketched, last, h, ?_⟩
    simp only [List.map_nil, List.head?_nil, Session.sketch, Forest.append_nil]
  | cons line rest ih =>
    rw [List.foldlM_cons, ensures_bind]
    apply (h.ensures_drawLine sourceId line).mono
    rintro middle tree' ⟨hsession, hmiddle⟩
    apply (ih hmiddle).mono
    rintro after tree'' ⟨hafter, sketched', last', hshows, hsketch⟩
    refine ⟨?_, sketched', last', hshows, ?_⟩
    · rw [hafter, hsession, List.map_cons, List.foldl_cons]
    · rw [hsketch, hsession, Forest.append_assoc]
      rfl

end Progress

/-- A drawing shows its sketch below a new wrapper, and ends with the registry of the advanced
session. -/
theorem Script.ensures_draw (hstart : start.Grown) (script : Script) (config : Config)
    (allowed : String → Option Content → Prop) :
    (script.draw config ElementTree.root).Ensures allowed
      (fun outcome after ↦
        outcome.registry = (Session.after config script.directives).registry ∧
        ∃ below, Canvas start after below ∧
          below.Depicts allowed ((Session.ofConfig config).sketch script.directives)) start := by
  simp only [draw, ensures_bind, ensures_newChild, ensures_pure]
  refine ⟨hstart.size_pos, ?_⟩
  have hshows : Progress.Shows start allowed ⟨.ofConfig config, none, []⟩
      (start.adopt ElementTree.root wrapperElement) .nil fun _ ↦ .nil :=
    ⟨.nil, .nil, Canvas.opened hstart, .nil, fun _ ↦ .nil⟩
  apply (hshows.ensures_drawLines script.sourceId script.lines).mono
  rintro progress tree' ⟨hsession, sketched, last, ⟨settled, opened, hcanvas, hsettled, hopened⟩,
    hsketch⟩
  rw [← Forest.append_nil opened] at hcanvas
  apply (ensures_settleFooter hcanvas hopened none).mono
  rintro _ after ⟨closed, hclosed, hlast⟩
  rw [Forest.append_nil] at hclosed
  have hdepicts := hsettled.append hlast
  rw [hsketch] at hdepicts
  exact ⟨congrArg Session.registry hsession, _, hclosed, hdepicts⟩

/-- With a markdown renderer that fills nodes, every drawing succeeds and adds to the tree exactly
its sketch: a wrapper, and below it one block for each line that is drawn, in their order. -/
theorem render_eq_sketch {start : ElementTree} (hstart : start.Reachable)
    {markdown : MarkdownRenderer ElementTree} {context : MarkdownContext}
    {written : String → Option Content} (hmarkdown : markdown.Fills context written)
    (script : Script) (config : Config) :
    ∃ outcome tree,
      script.render config ElementTree.sink markdown context start = (.ok outcome, tree) ∧
      tree.forest.map Element.bare = start.forest.map Element.bare ++
        .cons wrapperElement (((Session.ofConfig config).sketch script.directives).map
          fun node ↦ node.element (node.inscription.content written)) .nil := by
  have hdraw := script.ensures_draw hstart.grown config fun source content ↦
    content = written source
  rcases hdraw.of_perform ElementTree.sink_carries hmarkdown.writes with
    ⟨outcome, tree, hrun, -, below, hcanvas, hdepicts⟩ | ⟨error, tree, -, hraise⟩
  · have hforest := hcanvas.forest_eq
    rw [hdepicts.map_snd_eq] at hforest
    exact ⟨outcome, tree, hrun, hforest⟩
  · exact absurd hraise (hmarkdown.not_canRaise error)

/-- A script whose default footer changes right after a message, and whose last message gets an
empty footer instead of a default one. -/
def footerScript : Script where
  lines := [⟨.setting .footerMode "all", ⟨0, 16⟩⟩, ⟨.footerDefault .left "old", ⟨17, 30⟩⟩,
    ⟨.message .left "one", ⟨31, 36⟩⟩, ⟨.footerDefault .left "new", ⟨37, 50⟩⟩,
    ⟨.message .left "two", ⟨51, 56⟩⟩, ⟨.message .left "three", ⟨57, 64⟩⟩,
    ⟨.footerAttachment "", ⟨65, 67⟩⟩]
  sourceId := 0

/-- The footers are the old default, the new one and the empty one, each in its own message. -/
theorem render_eq_sketch_footerScript :
    ∃ outcome tree,
      footerScript.render .default ElementTree.sink (.plain ElementTree.sink) ⟨""⟩ .empty =
        (.ok outcome, tree) ∧
      (tree.forest.map Element.bare).preorder.map (fun element ↦ (element.role, element.content)) =
        [(.wrapper, none),
          (.message .left, none), (.bubble, none), (.content, some (.text "one")),
          (.footer, some (.text "old")),
          (.message .left, none), (.bubble, none), (.content, some (.text "two")),
          (.footer, some (.text "new")),
          (.message .left, none), (.bubble, none), (.content, some (.text "three")),
          (.footer, some (.text ""))] := by
  obtain ⟨outcome, tree, hrun, hforest⟩ := render_eq_sketch .empty
    (MarkdownRenderer.plain_fills ⟨""⟩) footerScript .default
  refine ⟨outcome, tree, hrun, ?_⟩
  rw [hforest]
  decide

end Colloquy
