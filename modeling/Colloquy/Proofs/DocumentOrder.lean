import Colloquy.Proofs.History
import Colloquy.Proofs.Lookahead
import Colloquy.Proofs.Outcomes
import Colloquy.Proofs.Rehearsal
import Mathlib.Data.List.Induction

/-!
# Drawing in document order

A block is drawn in document order, line after line and part after part, but for the default
footers. A message learns of its footer from the next line, when the nodes of that line are already
there. An explicit footer comes from a line that is not drawn itself, and the last footer from the
end of the script; but a default footer is overtaken by the block of the next line, and is created
after it though it comes before it in the document. That is the only way in which the order is
broken.
-/

namespace Colloquy

open Drawing

namespace Session

/-- A line of the directive is drawn as a block of its own. -/
def DrawsBlock (session : Session) : Directive → Prop
  | .message _ _ | .comment _ | .delimiter => True
  | .unparsed _ => session.presentation.clean = false
  | _ => False

instance (session : Session) : (directive : Directive) → Decidable (session.DrawsBlock directive)
  | .message _ _ | .comment _ | .delimiter => .isTrue trivial
  | .unparsed _ => inferInstanceAs (Decidable (session.presentation.clean = false))
  | .title _ _ _ | .footerDefault _ _ | .setting _ _ | .footerAttachment _ => .isFalse id

/-- The default footer that a line of the directive leaves to be drawn later. -/
def footerLeft? (session : Session) : Directive → Option String
  | .message side _ => session.defaultFooter? side
  | _ => none

end Session

namespace Config

/-- The default footer that waits after some lines, left by the last one. -/
def waitingFooter? (config : Config) (past : List Directive) : Option String :=
  past.getLast?.bind (Session.after config past.dropLast).footerLeft?

/-- The block of some line is drawn while the default footer of a message waits. -/
def FooterOvertaken (config : Config) (directives : List Directive) : Prop :=
  ∃ past next, past ++ [next] <+: directives ∧ (config.waitingFooter? past).isSome ∧
    (Session.after config past).DrawsBlock next

/-- What waits after a line is what the line leaves. -/
theorem waitingFooter?_append_singleton (config : Config) (past : List Directive)
    (directive : Directive) :
    config.waitingFooter? (past ++ [directive]) =
      (Session.after config past).footerLeft? directive := by
  rw [waitingFooter?, List.getLast?_concat, List.dropLast_concat, Option.bind_some]

/-- No line overtakes a footer where there is none. -/
theorem not_footerOvertaken_nil (config : Config) : ¬config.FooterOvertaken [] := by
  rintro ⟨past, next, hprefix, -⟩
  exact List.append_ne_nil_of_right_ne_nil past (List.cons_ne_nil next [])
    (List.prefix_nil.mp hprefix)

/-- One line more overtakes the footer that waits if it draws a block. -/
theorem footerOvertaken_append_singleton {config : Config} {past : List Directive}
    {directive : Directive} :
    config.FooterOvertaken (past ++ [directive]) ↔
      config.FooterOvertaken past ∨ (config.waitingFooter? past).isSome ∧
        (Session.after config past).DrawsBlock directive := by
  constructor
  · rintro ⟨before, next, hprefix, hwaits, hdraws⟩
    obtain hall | hearlier := List.prefix_concat_iff.mp hprefix
    · obtain ⟨rfl, rfl⟩ := List.append_singleton_inj.mp hall
      exact .inr ⟨hwaits, hdraws⟩
    · exact .inl ⟨before, next, hearlier, hwaits, hdraws⟩
  · rintro (⟨before, next, hprefix, hboth⟩ | hboth)
    · exact ⟨before, next, hprefix.trans (List.prefix_append _ _), hboth⟩
    · exact ⟨past, directive, List.prefix_refl _, hboth⟩

/-- The lines that overtake a footer are found by trying one after the other. -/
theorem footerOvertaken_iff_exists_index {config : Config} {directives : List Directive} :
    config.FooterOvertaken directives ↔ ∃ index ∈ List.range directives.length,
      (config.waitingFooter? (directives.take index)).isSome ∧
        ∃ next ∈ directives[index]?,
          (Session.after config (directives.take index)).DrawsBlock next := by
  constructor
  · rintro ⟨past, next, ⟨rest, rfl⟩, hwaits, hdraws⟩
    have htake : (past ++ [next] ++ rest).take past.length = past := by
      rw [List.append_assoc, List.take_left]
    refine ⟨past.length, ?_, htake.symm ▸ hwaits, next, ?_, htake.symm ▸ hdraws⟩
    all_goals simp
  · rintro ⟨index, -, hwaits, next, hnext, hdraws⟩
    have hprefix := List.take_prefix (index + 1) directives
    rw [List.take_add_one, Option.mem_def.mp hnext] at hprefix
    exact ⟨directives.take index, next, hprefix, hwaits, hdraws⟩

instance (config : Config) (directives : List Directive) :
    Decidable (config.FooterOvertaken directives) :=
  decidable_of_iff' _ footerOvertaken_iff_exists_index

end Config

/-! ### Trails below a wrapper -/

/-- The trail goes to a wrapper below the root, through nodes that are created from some number
on. -/
structure Frontier.Inside (wrapper least : Nat) (frontier : Frontier) (inner : List NodeId) :
    Prop where
  trail?_eq : frontier.trail? = some (inner ++ [⟨wrapper⟩, ElementTree.root])
  bounds : ∀ node ∈ inner, least ≤ node.index ∧ node.index < frontier.size

namespace Frontier

variable {wrapper least : Nat} {frontier : Frontier} {inner outer : List NodeId} {parent : NodeId}

/-- A node below the wrapper leaves everything before it. -/
theorem Inside.create_wrapper (h : frontier.Inside wrapper least inner) (hleast : wrapper < least) :
    (frontier.create ⟨wrapper⟩).Inside wrapper frontier.size [⟨frontier.size⟩] := by
  have hnot : (⟨wrapper⟩ : NodeId) ∉ inner := fun hmem ↦
    Nat.not_lt_of_le (h.bounds _ hmem).1 hleast
  rw [create_of_trail?_eq h.trail?_eq hnot]
  refine ⟨rfl, fun node hnode ↦ ?_⟩
  rw [List.mem_singleton.mp hnode]
  exact ⟨Nat.le_refl _, Nat.lt_succ_self _⟩

/-- A node below one of those inside leaves what comes before that. -/
theorem Inside.create (h : frontier.Inside wrapper least (inner ++ parent :: outer))
    (hparent : parent ∉ inner) :
    (frontier.create parent).Inside wrapper least (⟨frontier.size⟩ :: parent :: outer) := by
  have htrail : frontier.trail? =
      some (inner ++ parent :: (outer ++ [⟨wrapper⟩, ElementTree.root])) := by
    rw [h.trail?_eq, List.append_assoc, List.cons_append]
  rw [create_of_trail?_eq htrail hparent]
  refine ⟨rfl, fun node hnode ↦ ?_⟩
  obtain rfl | hold := List.mem_cons.mp hnode
  · have := h.bounds parent (List.mem_append_right _ List.mem_cons_self)
    exact ⟨Nat.le_of_lt (Nat.lt_of_le_of_lt this.1 this.2), Nat.lt_succ_self _⟩
  · have := h.bounds node (List.mem_append_right _ hold)
    exact ⟨this.1, Nat.lt_succ_of_lt this.2⟩

/-- A node below the newest one comes next. -/
theorem Inside.create_first (h : frontier.Inside wrapper least (parent :: outer)) :
    (frontier.create parent).Inside wrapper least (⟨frontier.size⟩ :: parent :: outer) := by
  rw [← List.nil_append (parent :: outer)] at h
  exact h.create List.not_mem_nil

/-- A node beside the newest one takes its place. -/
theorem Inside.create_second {newest : NodeId}
    (h : frontier.Inside wrapper least (newest :: parent :: outer)) (hne : parent ≠ newest) :
    (frontier.create parent).Inside wrapper least (⟨frontier.size⟩ :: parent :: outer) := by
  rw [← List.singleton_append] at h
  exact h.create (mt List.mem_singleton.mp hne)

/-- Nodes that are created from some number on are created from any smaller number on. -/
theorem Inside.mono (h : frontier.Inside wrapper least inner) {less : Nat} (hless : less ≤ least) :
    frontier.Inside wrapper less inner where
  trail?_eq := h.trail?_eq
  bounds := fun node hnode ↦ ⟨hless.trans (h.bounds node hnode).1, (h.bounds node hnode).2⟩

/-- The nodes inside are left behind once the trail goes through newer ones only: what is put below
one of them then breaks the order. -/
theorem Inside.trail?_create_of_left {later : Frontier} {inner' : List NodeId} {node : NodeId}
    (h : frontier.Inside wrapper (wrapper + 1) inner)
    (hlater : later.Inside wrapper frontier.size inner') (hnode : node ∈ inner) :
    (later.create node).trail? = none := by
  apply trail?_create_of_not_mem hlater.trail?_eq
  obtain ⟨hyoung, hold⟩ := h.bounds node hnode
  simp only [List.mem_append, List.mem_cons, List.not_mem_nil, or_false, not_or]
  refine ⟨fun hmem ↦ Nat.not_lt_of_le (hlater.bounds _ hmem).1 hold, ?_, ?_⟩
  · rintro rfl
    exact Nat.not_succ_le_self wrapper hyoung
  · rintro rfl
    exact Nat.not_succ_le_zero wrapper hyoung

/-- A comment is drawn inside the wrapper. -/
theorem Inside.drawComment (h : frontier.Inside wrapper least inner) (hleast : wrapper < least)
    (presentation : Presentation) (content : String) :
    ∃ inner', ((Colloquy.drawComment ⟨wrapper⟩ presentation content).rehearse frontier).2.Inside
      wrapper frontier.size inner' := by
  rw [rehearse_drawComment]
  exact ⟨_, (h.create_wrapper hleast).create_first⟩

/-- A row of dots is drawn inside the wrapper. -/
theorem Inside.drawDelimiter (h : frontier.Inside wrapper least inner) (hleast : wrapper < least) :
    ∃ inner', ((Colloquy.drawDelimiter ⟨wrapper⟩).rehearse frontier).2.Inside wrapper
      frontier.size inner' := by
  rw [rehearse_drawDelimiter]
  have hdot := (h.create_wrapper hleast).create_first.create_first
  have hdots := hdot.create_second (by simp)
  exact ⟨_, hdots.create_second (by simp)⟩

/-- A message is drawn inside the wrapper, and the trail goes through its box. -/
theorem Inside.drawMessage (h : frontier.Inside wrapper least inner) (hleast : wrapper < least)
    (presentation : Presentation) (message : MessageInstruction) (showsTitle : Bool) :
    let framed := (drawFrame ⟨wrapper⟩ presentation message).rehearse frontier
    ∃ inner', ((fillBubble framed.1 presentation.markdown message showsTitle).rehearse
      framed.2).2.Inside wrapper frontier.size inner' ∧ framed.1 ∈ inner' := by
  intro framed
  simp only [framed, rehearse_drawFrame, rehearse_fillBubble]
  have hfirst := (h.create_wrapper hleast).create_first.create_first
  cases showsTitle with
  | false => exact ⟨_, hfirst, List.mem_cons_of_mem _ List.mem_cons_self⟩
  | true =>
    exact ⟨_, hfirst.create_second (by simp), List.mem_cons_of_mem _ List.mem_cons_self⟩

end Frontier

/-! ### Lines -/

/-- The box that waits for a footer is one of some nodes. -/
def PendingFooter.Among (pending : PendingFooter) (nodes : List NodeId) : Prop :=
  ∀ message ∈ pending, message.bubble ∈ nodes

/-- A line that is no message leaves no box to look for. -/
theorem PendingFooter.among_none (nodes : List NodeId) : PendingFooter.Among none nodes :=
  fun _ hnone ↦ absurd hnone (Option.not_mem_none _)

/-- A line that is drawn as a block is drawn inside the wrapper, and its box is on the trail if it
has one. Any other line is not drawn and has no box. -/
theorem Session.rehearse_drawStep {wrapper least : Nat} {frontier : Frontier} {inner : List NodeId}
    (h : frontier.Inside wrapper least inner) (hleast : wrapper < least) (session : Session)
    (line : Line) :
    let drawn := ((session.execute line).session.drawStep ⟨wrapper⟩
      (session.execute line).step).rehearse frontier
    (session.DrawsBlock line.directive ∧ line.directive.attachment? = none ∧
      ∃ inner', drawn.2.Inside wrapper frontier.size inner' ∧
        PendingFooter.Among drawn.1.2 inner') ∨
    (¬session.DrawsBlock line.directive ∧ drawn.1.2 = none ∧ drawn.2 = frontier) := by
  obtain ⟨directive, span⟩ := line
  cases directive with
  | comment content =>
    simp only [execute, drawStep, draw, rehearse_bind, rehearse_pure]
    obtain ⟨inner', hinner⟩ := h.drawComment hleast session.presentation content
    exact .inl ⟨trivial, rfl, inner', hinner, PendingFooter.among_none _⟩
  | delimiter =>
    simp only [execute, drawStep, draw, rehearse_bind, rehearse_pure]
    obtain ⟨inner', hinner⟩ := h.drawDelimiter hleast
    exact .inl ⟨trivial, rfl, inner', hinner, PendingFooter.among_none _⟩
  | unparsed content =>
    simp only [execute, DrawsBlock]
    cases session.presentation.clean with
    | true => exact .inr ⟨Bool.noConfusion, rfl, rfl⟩
    | false =>
      simp only [Bool.false_eq_true, if_false, drawStep, draw, rehearse_bind,
        rehearse_drawUnparsed, rehearse_pure]
      exact .inl ⟨trivial, rfl, _, h.create_wrapper hleast, PendingFooter.among_none _⟩
  | message side content =>
    simp only [execute, drawStep, draw, rehearse_bind, rehearse_pure]
    obtain ⟨inner', hinner, hbox⟩ := h.drawMessage hleast _ _ _
    refine .inl ⟨trivial, rfl, inner', hinner, ?_⟩
    rintro message hmessage
    cases hmessage
    exact hbox
  | _ => exact .inr ⟨id, rfl, rfl⟩

/-- What a line leaves to be drawn later is its default footer. -/
theorem Session.always_footerLeft (session : Session) (wrapper : NodeId) (line : Line) :
    ((session.execute line).session.drawStep wrapper (session.execute line).step).Always
      fun drawn ↦ drawn.2.bind (·.defaultFooter) = session.footerLeft? line.directive := by
  obtain ⟨directive, span⟩ := line
  cases directive with
  | message side content =>
    simp only [execute, drawStep, draw, always_bind, always_pure]
    exact always_of_forall _ fun _ ↦ always_of_forall _ fun _ ↦ rfl
  | unparsed content =>
    simp only [execute]
    cases session.presentation.clean with
    | true => exact rfl
    | false =>
      simp only [Bool.false_eq_true, if_false, drawStep, draw, always_bind, always_pure]
      exact always_of_forall _ fun _ ↦ rfl
  | comment content | delimiter =>
    simp only [execute, drawStep, draw, always_bind, always_pure]
    exact always_of_forall _ fun _ ↦ rfl
  | _ => rfl

/-- A footer that is drawn below the trail stays inside the wrapper. -/
theorem Frontier.Inside.settleFooter {wrapper least : Nat} {frontier : Frontier}
    {inner : List NodeId} (h : frontier.Inside wrapper least inner) {pending : PendingFooter}
    (hpending : pending.Among inner) (explicit : Option String) :
    ∃ inner', ((Colloquy.settleFooter pending explicit).rehearse frontier).2.Inside wrapper least
      inner' := by
  rw [rehearse_settleFooter]
  cases hsettled : pending.resolve explicit with
  | none => exact ⟨inner, h⟩
  | some settled =>
    obtain ⟨message, footer⟩ := settled
    have hbox := hpending message (PendingFooter.resolve_eq_some_iff.mp hsettled).1
    obtain ⟨before, after, rfl, hnot⟩ := List.eq_append_cons_of_mem hbox
    exact ⟨_, h.create hnot⟩

namespace Progress

/-- A rehearsal has got past some lines: the trail is inside the wrapper and goes through the box
that waits, unless a footer was overtaken. -/
structure Rehearsed (config : Config) (wrapper : Nat) (past : List Directive) (progress : Progress)
    (frontier : Frontier) : Prop where
  session_eq : progress.session = Session.after config past
  footer_eq : progress.pending.bind (·.defaultFooter) = config.waitingFooter? past
  lt_size : wrapper < frontier.size
  trail?_eq : config.FooterOvertaken past → frontier.trail? = none
  inside : ¬config.FooterOvertaken past → ∃ inner,
    frontier.Inside wrapper (wrapper + 1) inner ∧ progress.pending.Among inner

section Step

variable {config : Config} {wrapper : Nat} {past : List Directive} {progress : Progress}
  {frontier : Frontier}

/-- The line that is the first to overtake a footer breaks the order: the box that waits is older
than the block, and so is left behind by the trail. -/
theorem Rehearsed.trail?_drawLine (h : progress.Rehearsed config wrapper past frontier)
    (sourceId : Nat) {line : Line} (hearlier : ¬config.FooterOvertaken past)
    (hwaits : (config.waitingFooter? past).isSome)
    (hdraws : (Session.after config past).DrawsBlock line.directive) :
    ((progress.drawLine ⟨wrapper⟩ sourceId line).rehearse frontier).2.trail? = none := by
  simp only [Progress.drawLine, rehearse_bind, rehearse_pure, Session.attachment?_execute]
  obtain ⟨footer, hwaits⟩ := Option.isSome_iff_exists.mp hwaits
  rw [← h.footer_eq, Option.bind_eq_some_iff] at hwaits
  obtain ⟨message, hmessage, hdefault⟩ := hwaits
  obtain ⟨inner, hinner, hboxes⟩ := h.inside hearlier
  obtain ⟨-, hattachment, inner', hinner', -⟩ | ⟨hnot, -⟩ :=
    Session.rehearse_drawStep hinner (Nat.lt_succ_self wrapper) progress.session line
  · rw [hattachment, hmessage, rehearse_settleFooter_some hdefault]
    exact hinner.trail?_create_of_left hinner' (hboxes message hmessage)
  · rw [h.session_eq] at hnot
    exact absurd hdraws hnot

/-- A line that overtakes no footer leaves the trail inside the wrapper and on its box, if it has
one. -/
theorem Rehearsed.inside_drawLine (h : progress.Rehearsed config wrapper past frontier)
    (sourceId : Nat) {line : Line} (hearlier : ¬config.FooterOvertaken past)
    (hnot : ¬((config.waitingFooter? past).isSome ∧
      (Session.after config past).DrawsBlock line.directive)) :
    let drawn := (progress.drawLine ⟨wrapper⟩ sourceId line).rehearse frontier
    ∃ inner, drawn.2.Inside wrapper (wrapper + 1) inner ∧ drawn.1.pending.Among inner := by
  simp only [Progress.drawLine, rehearse_bind, rehearse_pure, Session.attachment?_execute]
  obtain ⟨inner, hinner, hboxes⟩ := h.inside hearlier
  obtain ⟨hdraws, hattachment, inner', hinner', hboxes'⟩ | ⟨-, hpending, hsame⟩ :=
    Session.rehearse_drawStep hinner (Nat.lt_succ_self wrapper) progress.session line
  · rw [h.session_eq] at hdraws
    have hnothing : progress.pending.bind (·.defaultFooter) = none := by
      rw [h.footer_eq, ← Option.not_isSome_iff_eq_none]
      exact fun hwaits ↦ hnot ⟨hwaits, hdraws⟩
    rw [hattachment, rehearse_settleFooter_none hnothing]
    exact ⟨inner', hinner'.mono h.lt_size, hboxes'⟩
  · rw [hsame, hpending]
    obtain ⟨inner', hinner'⟩ := hinner.settleFooter hboxes line.directive.attachment?
    exact ⟨inner', hinner', PendingFooter.among_none inner'⟩

/-- A line keeps the order, unless it overtakes a footer. -/
theorem Rehearsed.drawLine (h : progress.Rehearsed config wrapper past frontier) (sourceId : Nat)
    (line : Line) :
    let drawn := (progress.drawLine ⟨wrapper⟩ sourceId line).rehearse frontier
    drawn.1.Rehearsed config wrapper (past ++ [line.directive]) drawn.2 where
  session_eq := by
    simp only [Progress.drawLine, rehearse_bind, rehearse_pure]
    rw [(progress.session.always_drawStep_execute ⟨wrapper⟩ line).rehearsed frontier, h.session_eq,
      Session.after_append_singleton]
  footer_eq := by
    simp only [Progress.drawLine, rehearse_bind, rehearse_pure]
    rw [(progress.session.always_footerLeft ⟨wrapper⟩ line).rehearsed frontier, h.session_eq,
      Config.waitingFooter?_append_singleton]
  lt_size := Nat.lt_of_lt_of_le h.lt_size (size_le_rehearse _ _)
  trail?_eq := by
    intro hovertaken
    by_cases hearlier : config.FooterOvertaken past
    · exact trail?_rehearse_of_eq_none _ (h.trail?_eq hearlier)
    · obtain ⟨hwaits, hdraws⟩ :=
        (Config.footerOvertaken_append_singleton.mp hovertaken).resolve_left hearlier
      exact h.trail?_drawLine sourceId hearlier hwaits hdraws
  inside := by
    intro hnot
    rw [Config.footerOvertaken_append_singleton, not_or] at hnot
    exact h.inside_drawLine sourceId hnot.1 hnot.2

/-- Lines keep the order, unless one of them overtakes a footer. -/
theorem Rehearsed.drawLines (h : progress.Rehearsed config wrapper past frontier) (sourceId : Nat)
    (lines : List Line) :
    let drawn := (lines.foldlM (Progress.drawLine ⟨wrapper⟩ sourceId) progress).rehearse frontier
    drawn.1.Rehearsed config wrapper (past ++ lines.map (·.directive)) drawn.2 := by
  induction lines generalizing past progress frontier with
  | nil => rwa [List.map_nil, List.append_nil]
  | cons line rest ih =>
    simp only [List.foldlM_cons, rehearse_bind]
    have hrest := ih (h.drawLine sourceId line)
    rwa [List.append_assoc] at hrest

end Step

end Progress

/-- In a tree in document order a new wrapper is the trail up to the root. -/
theorem ElementTree.Grown.inside_create_root {start : ElementTree} (hstart : start.Grown)
    (horder : start.InDocumentOrder) :
    (start.frontier.create ElementTree.root).Inside start.size (start.size + 1) [] := by
  obtain ⟨element, below, hshape, hbelow, -⟩ := hstart.shape_eq
  have hroot : ElementTree.root ∉ below.trail := fun hmem ↦
    Nat.lt_irrefl _ (hbelow _ (Forest.mem_handles_of_mem_trail hmem)).1
  have htrail : start.frontier.trail? = some (below.trail ++ [ElementTree.root]) := by
    rw [ElementTree.frontier, if_pos horder, ← ElementTree.trail_shape, hshape,
      Forest.trail_cons_nil]
  rw [Frontier.create_of_trail?_eq htrail hroot]
  exact ⟨rfl, fun _ hmem ↦ absurd hmem List.not_mem_nil⟩

/-- A script is drawn in document order, into a tree that is in document order, unless it has a
footer overtaken. -/
theorem Script.isSome_rehearse_draw {start : ElementTree} (hstart : start.Grown) (script : Script)
    (config : Config) :
    ((script.draw config ElementTree.root).rehearse start.frontier).2.trail?.isSome ↔
      start.InDocumentOrder ∧ ¬config.FooterOvertaken script.directives := by
  by_cases horder : start.InDocumentOrder
  · simp only [draw, rehearse_bind, rehearse_newChild, rehearse_pure, ElementTree.size_frontier]
    have hopened : (⟨.ofConfig config, none, []⟩ : Progress).Rehearsed config start.size []
        (start.frontier.create ElementTree.root) :=
      { session_eq := rfl
        footer_eq := rfl
        lt_size := Nat.lt_succ_self _
        trail?_eq := fun hovertaken ↦ absurd hovertaken config.not_footerOvertaken_nil
        inside := fun _ ↦
          ⟨[], hstart.inside_create_root horder, PendingFooter.among_none []⟩ }
    have hlines := hopened.drawLines script.sourceId script.lines
    by_cases hovertaken : config.FooterOvertaken script.directives
    · rw [trail?_rehearse_of_eq_none _ (hlines.trail?_eq hovertaken)]
      exact ⟨fun hsome ↦ absurd hsome Bool.false_ne_true, fun hboth ↦ absurd hovertaken hboth.2⟩
    · obtain ⟨inner, hinner, hboxes⟩ := hlines.inside hovertaken
      obtain ⟨inner', hinner'⟩ := hinner.settleFooter hboxes none
      exact ⟨fun _ ↦ ⟨horder, hovertaken⟩, fun _ ↦ Option.isSome_of_eq_some hinner'.trail?_eq⟩
  · have hnone : start.frontier.trail? = none := if_neg horder
    rw [trail?_rehearse_of_eq_none _ hnone]
    exact ⟨fun hsome ↦ absurd hsome Bool.false_ne_true, fun hboth ↦ absurd hboth.1 horder⟩

/-- Over a reachable tree and with a renderer that writes nothing but the content of its target, a
drawing that succeeds leaves the tree in document order exactly when the tree was so before and no
default footer is overtaken: that is, when no line that is drawn as a block follows directly on a
message with a default footer. -/
theorem inDocumentOrder_of_render {τ : Type} {start tree : ElementTree} (hstart : start.Reachable)
    {markdown : MarkdownRenderer (τ × ElementTree)} {context : MarkdownContext}
    {allowed : String → Option Content → Prop}
    (hmarkdown : markdown.Writes Prod.snd context allowed)
    {script : Script} {config : Config} {memory memory' : τ} {outcome : Outcome}
    (hrun : script.render config (ElementTree.sink.beside τ) markdown context (memory, start) =
      (.ok outcome, (memory', tree))) :
    tree.InDocumentOrder ↔
      start.InDocumentOrder ∧ ¬config.FooterOvertaken script.directives := by
  have hsink : (ElementTree.sink.beside τ).Carries Prod.snd := ElementTree.sink_carries.beside
  have hdraw : (script.draw config ElementTree.root).Ensures allowed _ (memory, start).2 :=
    (script.ensures_draw hstart.grown config allowed).rehearsed hstart.grown hstart.counted
  have hperform : (script.draw config ElementTree.root).perform (ElementTree.sink.beside τ) markdown
      context (memory, start) = (.ok outcome, (memory', tree)) := hrun
  rcases hdraw.of_perform hsink hmarkdown with
    ⟨outcome', state', hok, hrehearsed⟩ | ⟨error, state', herror, -⟩
  · cases hok.symm.trans hperform
    have hfrontier : tree.frontier = _ := congrArg Prod.snd hrehearsed
    rw [← tree.isSome_frontier, hfrontier]
    exact script.isSome_rehearse_draw hstart.grown config
  · cases herror.symm.trans hperform

/-- Two messages with a default footer, one directly after the other. -/
def overtakingScript : Script := Script.parse "footerMode: all\nleftFooter: sent\n<one\n<two" 0

/-- The same two messages, with a line between them that is not drawn. -/
def orderlyScript : Script :=
  Script.parse "footerMode: all\nleftFooter: sent\n<one\nleftFooter: read\n<two" 0

/-- The footer of the first message is overtaken by the second one, unless a line stands between
them. -/
theorem inDocumentOrder_of_render_orderlyScript :
    (∃ outcome tree,
      overtakingScript.render .default (ElementTree.sink.beside Unit)
          (.plain (ElementTree.sink.beside Unit)) ⟨""⟩ ((), .empty) = (.ok outcome, ((), tree)) ∧
        ¬tree.InDocumentOrder) ∧
    ∃ outcome tree,
      orderlyScript.render .default (ElementTree.sink.beside Unit)
          (.plain (ElementTree.sink.beside Unit)) ⟨""⟩ ((), .empty) = (.ok outcome, ((), tree)) ∧
        tree.InDocumentOrder := by
  have hwrites := MarkdownRenderer.plain_writes (ElementTree.sink_carries.beside (τ := Unit)) ⟨""⟩
  have hempty : ElementTree.empty.InDocumentOrder := by decide
  constructor
  · have hok : (overtakingScript.render .default (ElementTree.sink.beside Unit)
        (.plain (ElementTree.sink.beside Unit)) ⟨""⟩ ((), .empty)).1.isOk := by
      decide +kernel
    obtain ⟨outcome, ⟨⟨⟩, tree⟩, hrun⟩ := Action.exists_of_isOk hok
    have hovertaken : Config.default.FooterOvertaken overtakingScript.directives := by
      decide +kernel
    exact ⟨outcome, tree, hrun, fun horder ↦
      ((inDocumentOrder_of_render .empty hwrites hrun).mp horder).2 hovertaken⟩
  · have hok : (orderlyScript.render .default (ElementTree.sink.beside Unit)
        (.plain (ElementTree.sink.beside Unit)) ⟨""⟩ ((), .empty)).1.isOk := by
      decide +kernel
    obtain ⟨outcome, ⟨⟨⟩, tree⟩, hrun⟩ := Action.exists_of_isOk hok
    have hnot : ¬Config.default.FooterOvertaken orderlyScript.directives := by
      decide +kernel
    exact ⟨outcome, tree, hrun,
      (inDocumentOrder_of_render .empty hwrites hrun).mpr ⟨hempty, hnot⟩⟩

/-- The footer of the first message is the ninth element to be created, but the sixth one of the
document: the renderer only shows sources in their targets, and still the order is broken. -/
theorem not_inDocumentOrder_overtakingScript :
    (MarkdownRenderer.plain ElementTree.sink).Writes id ⟨""⟩
      (fun source content ↦ content = some (.text source)) ∧
    ∃ outcome tree,
      overtakingScript.render .default ElementTree.sink (.plain ElementTree.sink) ⟨""⟩ .empty =
        (.ok outcome, tree) ∧
      tree.whole.handles.map NodeId.index = [0, 1, 2, 3, 4, 8, 5, 6, 7, 9] ∧
      ¬tree.InDocumentOrder := by
  refine ⟨MarkdownRenderer.plain_writes ElementTree.sink_carries ⟨""⟩, ?_⟩
  have hok : (overtakingScript.render .default ElementTree.sink (.plain ElementTree.sink) ⟨""⟩
      .empty).1.isOk := by
    decide +kernel
  obtain ⟨outcome, tree, hrun⟩ := Action.exists_of_isOk hok
  obtain rfl : (overtakingScript.render .default ElementTree.sink (.plain ElementTree.sink) ⟨""⟩
      .empty).2 = tree := congrArg Prod.snd hrun
  exact ⟨outcome, _, hrun, by decide +kernel, by decide +kernel⟩

end Colloquy
