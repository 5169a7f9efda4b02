import Colloquy.Proofs.Ordinals
import Colloquy.Render.Instruction

/-!
# Operations on a session

Besides being led through a script, a session can be worked on piece by piece: lines executed,
values given to settings, instructions drawn on some sink, titles bound, shown and registered, in
any order and whether or not the pieces fit together. Of what is said here about titles, no operation
can do more than `Changes` lists, so what these changes keep holds in every session that operations
lead to: a title that is marked as shown is there to be shown, and the registry is in step and only
grows.
-/

namespace Colloquy

namespace Participant

/-- The mark of a shown title is only on a title that can be shown. -/
def MarkEarned (participant : Participant) : Prop :=
  participant.renderedOnce = true → participant.title ≠ ""

/-- A title is marked only when it is shown, and it is not shown if it is empty. -/
theorem MarkEarned.afterMessage {participant : Participant} (h : participant.MarkEarned)
    (mode : TitleMode) : (participant.afterMessage mode).MarkEarned := by
  unfold Participant.afterMessage
  split
  next hshown =>
    obtain ⟨rfl, hshows⟩ := hshown
    intro _
    simp only [showsTitle, Bool.and_eq_true, bne_iff_ne] at hshows
    exact hshows.1
  next => exact h

end Participant

namespace Session

variable {σ : Type} {session after : Session}

/-- A piece of work on a session. -/
inductive Operation where
  /-- A line is executed. -/
  | execute (line : Line)
  /-- A setting is given a value. -/
  | applySetting (setting : Setting) (value : String)
  /-- An instruction is drawn by itself, on any sink in any state. -/
  | dispatch {σ : Type} (sink : Sink σ) (markdown : MarkdownRenderer σ) (context : MarkdownContext)
    (wrapper : NodeId) (instruction : Instruction) (state : σ)
  /-- A title is bound to a side. -/
  | retitle (side : Side) (title : String) (enforcedId : Option String)
  /-- A side is asked to show its title under a mode. -/
  | showTitle (side : Side) (mode : TitleMode)
  /-- A title is registered. -/
  | register (title : String)

/-- The session after an operation. -/
def operate (session : Session) : Operation → Session
  | .execute line => (session.execute line).session
  | .applySetting setting value => (session.applySetting setting value).1
  | .dispatch sink markdown context wrapper instruction state =>
    (session.dispatch sink markdown context wrapper instruction state).2.1
  | .retitle side title enforcedId => session.retitle side title enforcedId
  | .showTitle side mode => session.afterMessage side mode
  | .register title => session.register title

/-- The session after some operations, one after another. -/
def operateAll (session : Session) (operations : List Operation) : Session :=
  operations.foldl operate session

/-! ### What an operation can change -/

/-- What an operation can do to the participants and the registry of a session. -/
inductive Changes (session : Session) : Session → Prop
  | elsewhere {after : Session} (hparticipants : after.participants = session.participants)
    (hregistry : after.registry = session.registry) : Changes session after
  | retitle (side : Side) (title : String) (enforcedId : Option String) :
    Changes session (session.retitle side title enforcedId)
  | afterMessage (side : Side) (mode : TitleMode) : Changes session (session.afterMessage side mode)
  | register (title : String) : Changes session (session.register title)

/-- A setting has nothing to do with titles, whether it takes the value or not. -/
theorem changes_applySetting (session : Session) (setting : Setting) (value : String) :
    session.Changes (session.applySetting setting value).1 := by
  unfold applySetting
  split <;> exact .elsewhere rfl rfl

/-- A line binds a title, registers one or does nothing to titles. -/
theorem changes_execute (session : Session) (line : Line) :
    session.Changes (session.execute line).session := by
  obtain ⟨directive, span⟩ := line
  cases directive with
  | title side title enforcedId => exact .retitle side title enforcedId
  | footerDefault side content => exact .elsewhere rfl rfl
  | setting setting value => exact session.changes_applySetting setting value
  | delimiter => exact .elsewhere rfl rfl
  | comment content => exact .elsewhere rfl rfl
  | message side content => exact .register _
  | footerAttachment content => exact .elsewhere rfl rfl
  | unparsed content =>
    simp only [execute]
    split <;> exact .elsewhere rfl rfl

/-- Drawing an instruction notes at most the showing of a title, at whichever request it stops. -/
theorem changes_dispatch (session : Session) (sink : Sink σ) (markdown : MarkdownRenderer σ)
    (context : MarkdownContext) (wrapper : NodeId) (instruction : Instruction) (state : σ) :
    session.Changes (session.dispatch sink markdown context wrapper instruction state).2.1 := by
  cases instruction with
  | message message =>
    simp only [dispatch]
    split
    · exact .elsewhere rfl rfl
    · exact .afterMessage message.side session.presentation.titleMode
  | comment content => exact .elsewhere rfl rfl
  | delimiter => exact .elsewhere rfl rfl
  | unparsed content => exact .elsewhere rfl rfl

/-- No operation does more. -/
theorem changes_operate (session : Session) (operation : Operation) :
    session.Changes (session.operate operation) := by
  cases operation with
  | execute line => exact session.changes_execute line
  | applySetting setting value => exact session.changes_applySetting setting value
  | dispatch sink markdown context wrapper instruction state =>
    exact session.changes_dispatch sink markdown context wrapper instruction state
  | retitle side title enforcedId => exact .retitle side title enforcedId
  | showTitle side mode => exact .afterMessage side mode
  | register title => exact .register title

/-! ### What operations keep -/

/-- Marks are only on titles that can be shown, and the registry is in step. -/
structure IsSound (session : Session) : Prop where
  markEarned : ∀ side, (session.participants.get side).MarkEarned
  inStep : session.registry.InStep

/-- A session starts without marks and without registered titles. -/
theorem isSound_ofConfig (config : Config) : (ofConfig config).IsSound where
  markEarned := by
    intro side hmark
    cases side <;> cases hmark
  inStep := Registry.inStep_empty

/-- What an operation can do keeps a session sound. -/
theorem IsSound.of_changes (h : session.IsSound) (hchanges : session.Changes after) :
    after.IsSound := by
  cases hchanges with
  | elsewhere hparticipants hregistry =>
    constructor
    · rw [hparticipants]
      exact h.markEarned
    · rw [hregistry]
      exact h.inStep
  | retitle side title enforcedId =>
    refine ⟨fun other ↦ ?_, h.inStep⟩
    by_cases hother : other = side
    · simp [Session.retitle, PerSide.modify, hother, Participant.retitle, Participant.MarkEarned]
    · simpa [Session.retitle, PerSide.modify, hother] using h.markEarned other
  | afterMessage side mode =>
    refine ⟨fun other ↦ ?_, h.inStep⟩
    by_cases hother : other = side
    · simpa [Session.afterMessage, PerSide.modify, hother] using
        (h.markEarned side).afterMessage mode
    · simpa [Session.afterMessage, PerSide.modify, hother] using h.markEarned other
  | register title => exact ⟨h.markEarned, h.inStep.register title⟩

/-- What an operation can do leaves the registered titles in their places. -/
theorem Changes.titles_grow (h : session.Changes after) :
    session.registry.titles <+: after.registry.titles := by
  cases h with
  | elsewhere hparticipants hregistry => exact hregistry ▸ List.prefix_refl _
  | retitle side title enforcedId => exact List.prefix_refl _
  | afterMessage side mode => exact List.prefix_refl _
  | register title => exact Registry.titles_prefix_register _ _

/-- Operations keep a session sound. -/
theorem IsSound.operateAll (h : session.IsSound) (operations : List Operation) :
    (session.operateAll operations).IsSound := by
  induction operations generalizing session with
  | nil => exact h
  | cons operation rest ih => exact ih (h.of_changes (session.changes_operate operation))

/-- Operations only add titles to the end of the registry. -/
theorem titles_prefix_operateAll (session : Session) (operations : List Operation) :
    session.registry.titles <+: (session.operateAll operations).registry.titles := by
  induction operations generalizing session with
  | nil => exact List.prefix_refl _
  | cons operation rest ih =>
    exact (session.changes_operate operation).titles_grow.trans (ih _)

/-- Whatever operations lead to a session, its marks are only on titles that can be shown, and its
registry numbers distinct titles, none of them empty, by their places from one on; registering a
title that is not empty gives it the next number, unless it has one. Whatever operations come then,
these titles keep their places, and an ordinal belongs to the title that it was given to and to no
other. -/
theorem ordinals_of_operateAll (config : Config) (past more : List Operation) :
    let earlier := (ofConfig config).operateAll past
    let later := earlier.operateAll more
    (∀ side, (earlier.participants.get side).renderedOnce = true →
      (earlier.participants.get side).title ≠ "") ∧
    earlier.registry.InStep ∧
    earlier.registry.size = earlier.registry.titles.length ∧
    (∀ ordinal, (∃ title, earlier.registry.ordinal? title = some ordinal) ↔
      0 < ordinal ∧ ordinal ≤ earlier.registry.size) ∧
    (∀ title, (earlier.register title).registry.ordinal? title =
      if title = "" then none
      else some ((earlier.registry.ordinal? title).getD (earlier.registry.size + 1))) ∧
    earlier.registry.titles <+: later.registry.titles ∧
    ∀ title ordinal, earlier.registry.ordinal? title = some ordinal →
      ∀ other, later.registry.ordinal? other = some ordinal ↔ other = title := by
  intro earlier later
  have hearlier : earlier.IsSound := (isSound_ofConfig config).operateAll past
  have hlater : later.IsSound := hearlier.operateAll more
  have hgrown : earlier.registry.titles <+: later.registry.titles :=
    earlier.titles_prefix_operateAll more
  refine ⟨hearlier.markEarned, hearlier.inStep, rfl, hearlier.inStep.exists_ordinal?_iff,
    hearlier.inStep.ordinal?_register_self, hgrown, ?_⟩
  intro title ordinal hordinal other
  have hthere : title ∈ earlier.registry.titles := by
    rw [← hearlier.inStep.isSome_ordinal?_iff, hordinal]
    rfl
  have hkept : later.registry.ordinal? title = some ordinal := by
    rw [hearlier.inStep.ordinal?_of_prefix hlater.inStep hgrown hthere, hordinal]
  constructor
  · exact hlater.inStep.ordinal?_inj hkept
  · rintro rfl
    exact hkept

end Session
end Colloquy
