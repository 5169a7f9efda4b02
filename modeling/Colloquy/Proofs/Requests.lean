import Colloquy.Proofs.Outcomes

/-!
# Requests of a script

What a drawing asks of a sink and of a markdown renderer is the drawing without its result. For a
script that is decided by the configuration and the directives of its lines: the spans of the lines
only ever reach the warnings, and the warnings decide nothing. With its outcome, which needs no sink
to be known, this is all that there is to say about a run.
-/

namespace Colloquy

open Drawing (newChild)

variable {α β σ : Type}

namespace Drawing

/-- The requests of a drawing, without its result. -/
def requests (drawing : Drawing α) : Drawing Unit := (fun _ ↦ ()) <$> drawing

/-- A function of the result is applied where the performance ends. -/
theorem perform_map (f : α → β) (drawing : Drawing α) (sink : Sink σ)
    (markdown : MarkdownRenderer σ) (context : MarkdownContext) (state : σ) :
    (f <$> drawing).perform sink markdown context state =
      let run := drawing.perform sink markdown context state
      (run.1.map f, run.2) := by
  change (drawing.bind (pure ∘ f)).perform sink markdown context state = _
  induction drawing generalizing state with
  | done result => rfl
  | create parent role classes next ih =>
    rw [bind, perform_create, perform_create]
    rcases sink.create parent role classes state with ⟨_ | node, after⟩
    · rfl
    · exact ih node after
  | edit node change next ih =>
    rw [bind, perform_edit, perform_edit]
    rcases sink.edit node change state with ⟨_ | _, after⟩
    · rfl
    · exact ih after
  | markdown source target next ih =>
    rw [bind, perform_markdown, perform_markdown]
    rcases markdown source target context state with ⟨_ | _, after⟩
    · rfl
    · exact ih after

/-- A drawing that comes to one result only is its requests with that result. -/
theorem eq_map_requests {drawing : Drawing α} {result : α} (h : drawing.Always (· = result)) :
    drawing = (fun _ ↦ result) <$> drawing.requests := by
  induction drawing with
  | done other => exact congrArg done h
  | create parent role classes next ih =>
    exact congrArg (create parent role classes) (funext fun node ↦ ih node (h node))
  | edit node change next ih => exact congrArg (edit node change) (ih h)
  | markdown source target next ih => exact congrArg (markdown source target) (ih h)

end Drawing

/-! ### Drawing directives -/

/-- The message that waits, wherever its line stands. -/
def PendingMessage.unplaced (message : PendingMessage) : PendingMessage :=
  { message with span := ⟨0, 0⟩ }

/-- What a drawing goes on with: the session and the message that waits, wherever its line stands. -/
def Progress.unplaced (progress : Progress) : Session × PendingFooter :=
  (progress.session, progress.pending.map PendingMessage.unplaced)

/-- Execute and draw a line of a directive, and settle the footer of the message before it. -/
def Directive.draw (wrapper : NodeId) (before : Session × PendingFooter) (directive : Directive) :
    Drawing (Session × PendingFooter) := do
  let effect := before.1.execute ⟨directive, ⟨0, 0⟩⟩
  let after ← effect.session.drawStep wrapper effect.step
  settleFooter before.2 effect.step.attachment?
  return after

/-- Draw lines of some directives under a root node. -/
def Config.drawDirectives (config : Config) (directives : List Directive) (root : NodeId) :
    Drawing Unit := do
  let wrapper ← newChild root .wrapper [Classes.dialogueWrapper]
  let after ← directives.foldlM (Directive.draw wrapper) (.ofConfig config, none)
  settleFooter after.2 none

/-- Where its line stands is not part of what a message gets for a footer. -/
theorem settleFooter_unplaced (pending : PendingFooter) (explicit : Option String) :
    settleFooter (pending.map PendingMessage.unplaced) explicit = settleFooter pending explicit := by
  cases pending with
  | none => rfl
  | some message =>
    simp only [settleFooter, PendingFooter.resolve, Option.map_some, Option.bind_eq_bind,
      Option.bind_some, PendingMessage.unplaced]
    cases explicit <|> message.defaultFooter <;> rfl

namespace Session

/-- Where a line stands is part of its step for a message only. -/
theorem attachment?_execute_unplaced (session : Session) (directive : Directive) (span : Span) :
    (session.execute ⟨directive, span⟩).step.attachment? =
      (session.execute ⟨directive, ⟨0, 0⟩⟩).step.attachment? := by
  cases directive with
  | unparsed content =>
    simp only [execute]
  | _ => rfl

/-- Where a line stands is not part of the session that it leads to. -/
theorem session_execute_unplaced (session : Session) (directive : Directive) (span : Span) :
    (session.execute ⟨directive, span⟩).session =
      (session.execute ⟨directive, ⟨0, 0⟩⟩).session := by
  cases directive <;> rfl

/-- Where a line stands is not part of what is drawn for it. -/
theorem drawStep_unplaced (session after : Session) (wrapper : NodeId) (directive : Directive)
    (span : Span) :
    (fun drawn : Session × PendingFooter ↦ (drawn.1, drawn.2.map PendingMessage.unplaced)) <$>
        after.drawStep wrapper (session.execute ⟨directive, span⟩).step =
      after.drawStep wrapper (session.execute ⟨directive, ⟨0, 0⟩⟩).step := by
  cases directive with
  | message side content =>
    simp only [execute, drawStep, draw, messageOf, map_eq_pure_bind, bind_assoc, pure_bind]
    rfl
  | unparsed content =>
    simp only [execute]
    split
    · rfl
    · simp only [drawStep, map_eq_pure_bind, bind_assoc, pure_bind]
      rfl
  | comment content =>
    simp only [execute, drawStep, map_eq_pure_bind, bind_assoc, pure_bind]
    rfl
  | delimiter =>
    simp only [execute, drawStep, map_eq_pure_bind, bind_assoc, pure_bind]
    rfl
  | _ => rfl

end Session

namespace Progress

/-- A line is drawn as its directive is, whatever the warnings before it. -/
theorem unplaced_drawLine (wrapper : NodeId) (sourceId : Nat) (progress : Progress) (line : Line) :
    unplaced <$> progress.drawLine wrapper sourceId line =
      line.directive.draw wrapper progress.unplaced := by
  obtain ⟨directive, span⟩ := line
  simp only [drawLine, Directive.draw, unplaced, settleFooter_unplaced,
    ← Session.attachment?_execute_unplaced progress.session directive span,
    ← Session.session_execute_unplaced progress.session directive span,
    ← Session.drawStep_unplaced progress.session _ wrapper directive span,
    map_eq_pure_bind, bind_assoc, pure_bind]

/-- Consecutive lines are drawn as their directives are. -/
theorem unplaced_drawLines (wrapper : NodeId) (sourceId : Nat) (lines : List Line)
    (progress : Progress) :
    unplaced <$> lines.foldlM (drawLine wrapper sourceId) progress =
      (lines.map (·.directive)).foldlM (Directive.draw wrapper) progress.unplaced := by
  induction lines generalizing progress with
  | nil => rfl
  | cons line rest ih =>
    rw [List.foldlM_cons, List.map_cons, List.foldlM_cons, ← unplaced_drawLine wrapper sourceId,
      map_bind, bind_map_left]
    simp only [ih]

end Progress

namespace Script

/-- The requests of a script are those of its directives. -/
theorem requests_draw (script : Script) (config : Config) (root : NodeId) :
    (script.draw config root).requests = config.drawDirectives script.directives root := by
  have hlines : ∀ wrapper, Progress.unplaced <$>
      script.lines.foldlM (Progress.drawLine wrapper script.sourceId)
        ⟨.ofConfig config, none, []⟩ =
      script.directives.foldlM (Directive.draw wrapper) (.ofConfig config, none) := fun wrapper ↦
    Progress.unplaced_drawLines wrapper script.sourceId script.lines _
  simp only [Drawing.requests, draw, Config.drawDirectives, ← hlines, map_bind, bind_map_left,
    Progress.unplaced, settleFooter_unplaced, map_pure, bind_pure_unit]

/-- To draw a script is to draw its directives and to come to its outcome. -/
theorem draw_eq_map (script : Script) (config : Config) (root : NodeId) :
    script.draw config root =
      (fun _ ↦ script.outcome config) <$> config.drawDirectives script.directives root := by
  rw [Drawing.eq_map_requests (script.always_draw config root), requests_draw]

/-- To render a script is to send the requests of its directives, and to come to its outcome if none
is refused. -/
theorem render_eq_perform (script : Script) (config : Config) (sink : Sink σ)
    (markdown : MarkdownRenderer σ) (context : MarkdownContext) (state : σ) :
    script.render config sink markdown context state =
      let run := (config.drawDirectives script.directives (sink.root state)).perform sink markdown
        context state
      (run.1.map fun _ ↦ script.outcome config, run.2) := by
  change (script.draw config (sink.root state)).perform sink markdown context state = _
  rw [draw_eq_map, Drawing.perform_map]

/-- Scripts whose directives ask for the same lead every sink to the same state. Both stop with the
same error, or each comes to its own outcome. -/
theorem render_of_drawDirectives_eq {script other : Script} {config config' : Config}
    (h : config'.drawDirectives other.directives = config.drawDirectives script.directives)
    (sink : Sink σ) (markdown : MarkdownRenderer σ) (context : MarkdownContext) (state : σ) :
    let run := script.render config sink markdown context state
    let run' := other.render config' sink markdown context state
    run'.2 = run.2 ∧
      ((∃ error, run.1 = .error error ∧ run'.1 = .error error) ∨
        run.1 = .ok (script.outcome config) ∧ run'.1 = .ok (other.outcome config')) := by
  intro run run'
  simp only [run, run', render_eq_perform, h]
  refine ⟨trivial, ?_⟩
  cases ((config.drawDirectives script.directives (sink.root state)).perform sink markdown context
    state).1 with
  | error error => exact .inl ⟨error, rfl, rfl⟩
  | ok result => exact .inr ⟨rfl, rfl⟩

end Script
end Colloquy
