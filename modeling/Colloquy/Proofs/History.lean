import Colloquy.Proofs.Sketch
import Mathlib.Data.List.Induction

/-!
# The history of a message line

What a message shows is decided by the lines before it: the last title that its side was given, the
last valid title mode, and whether a message of its side was there under the mode `first` since that
title. The session of the line knows all of this, and nothing else decides.
-/

namespace Colloquy

namespace Directive

/-- The title and the enforced identity that the directive gives a side. -/
def titleOn? (side : Side) : Directive → Option (String × Option String)
  | .title other text enforcedId => if other = side then some (text, enforcedId) else none
  | _ => none

/-- The title mode that the directive puts in force. -/
def titleMode? : Directive → Option TitleMode
  | .setting .titleMode value => TitleMode.ofName? value
  | _ => none

end Directive

/-! ### Histories -/

/-- The last reading of some lines. -/
def latest? {α : Type} (read : Directive → Option α) (past : List Directive) : Option α :=
  past.reverse.findSome? read

/-- The identity that was enforced with the last title of a side. -/
def enforcedIdAfter (past : List Directive) (side : Side) : Option String :=
  (latest? (Directive.titleOn? side) past).bind Prod.snd

namespace Config

/-- The title of a side after some lines: the last one it was given, else the configured one. -/
def titleAfter (config : Config) (past : List Directive) (side : Side) : String :=
  ((latest? (Directive.titleOn? side) past).map Prod.fst).getD (config.titles.get side)

/-- The title mode after some lines: that of the last valid setting, else the configured one. -/
def titleModeAfter (config : Config) (past : List Directive) : TitleMode :=
  (latest? Directive.titleMode? past).getD config.presentation.titleMode

/-- A message of the side was there under the mode `first` since the side was last given a title. -/
def HadFirst (config : Config) (past : List Directive) (side : Side) : Prop :=
  ∃ older content newer, past = older ++ .message side content :: newer ∧
    (∀ directive ∈ newer, directive.titleOn? side = none) ∧ config.titleModeAfter older = .first

/-- A message of the side shows a title after some lines. -/
def ShowsTitle (config : Config) (past : List Directive) (side : Side) : Prop :=
  config.titleAfter past side ≠ "" ∧ (config.titleModeAfter past = .all ∨
    config.titleModeAfter past = .first ∧ ¬config.HadFirst past side)

end Config

/-! ### One line more -/

/-- The last reading is the one of the last line, if that has one. -/
@[simp]
theorem latest?_append_singleton {α : Type} (read : Directive → Option α) (past : List Directive)
    (directive : Directive) :
    latest? read (past ++ [directive]) = (read directive <|> latest? read past) := by
  simp only [latest?, List.reverse_append, List.reverse_singleton, List.singleton_append,
    List.findSome?_cons]
  cases read directive <;> rfl

/-- A title directive of the side brings its identity, or none. -/
theorem enforcedIdAfter_append_singleton (past : List Directive) (directive : Directive)
    (side : Side) :
    enforcedIdAfter (past ++ [directive]) side =
      (directive.titleOn? side).elim (enforcedIdAfter past side) Prod.snd := by
  rw [enforcedIdAfter, latest?_append_singleton]
  cases directive.titleOn? side <;> rfl

namespace Config

/-- A title directive of the side brings its title. -/
theorem titleAfter_append_singleton (config : Config) (past : List Directive)
    (directive : Directive) (side : Side) :
    config.titleAfter (past ++ [directive]) side =
      (directive.titleOn? side).elim (config.titleAfter past side) Prod.fst := by
  rw [titleAfter, latest?_append_singleton]
  cases directive.titleOn? side <;> rfl

/-- A valid setting of the title mode brings its mode. -/
theorem titleModeAfter_append_singleton (config : Config) (past : List Directive)
    (directive : Directive) :
    config.titleModeAfter (past ++ [directive]) =
      directive.titleMode?.getD (config.titleModeAfter past) := by
  rw [titleModeAfter, latest?_append_singleton]
  cases directive.titleMode? <;> rfl

/-- A message of the side under the mode `first` counts, and counts until the side is given a
title. -/
theorem hadFirst_append_singleton (config : Config) (past : List Directive)
    (directive : Directive) (side : Side) :
    config.HadFirst (past ++ [directive]) side ↔
      ((∃ content, directive = .message side content) ∧ config.titleModeAfter past = .first) ∨
        (directive.titleOn? side = none ∧ config.HadFirst past side) := by
  constructor
  · rintro ⟨older, content, newer, hpast, hnewer, hmode⟩
    -- The message is the last line itself, or it was there before the last line.
    rcases List.eq_nil_or_concat newer with rfl | ⟨between, last, rfl⟩
    · obtain ⟨rfl, hlast⟩ := List.append_inj' hpast rfl
      cases hlast
      exact .inl ⟨⟨content, rfl⟩, hmode⟩
    · rw [List.concat_eq_append, ← List.cons_append, ← List.append_assoc] at hpast
      obtain ⟨rfl, hlast⟩ := List.append_inj' hpast rfl
      cases hlast
      rw [List.concat_eq_append] at hnewer
      refine .inr ⟨hnewer _ (by simp), older, content, between, rfl, ?_, hmode⟩
      intro other hother
      exact hnewer other (List.mem_append_left _ hother)
  · rintro (⟨⟨content, rfl⟩, hmode⟩ | ⟨hdirective, older, content, newer, rfl, hnewer, hmode⟩)
    · exact ⟨past, content, [], rfl, by simp, hmode⟩
    · refine ⟨older, content, newer ++ [directive], by simp, ?_, hmode⟩
      intro other hother
      rcases List.mem_append.mp hother with hold | hnew
      · exact hnewer other hold
      · rw [List.mem_singleton.mp hnew]
        exact hdirective

end Config

namespace Participant

/-- A message does not change the title. -/
theorem title_afterMessage (participant : Participant) (mode : TitleMode) :
    (participant.afterMessage mode).title = participant.title := by
  unfold afterMessage
  split <;> rfl

/-- A message does not change the enforced identity. -/
theorem enforcedId_afterMessage (participant : Participant) (mode : TitleMode) :
    (participant.afterMessage mode).enforcedId = participant.enforcedId := by
  unfold afterMessage
  split <;> rfl

/-- A title counts as shown after a message if the mode is `first` or it counted before. -/
theorem renderedOnce_afterMessage {participant : Participant} (h : participant.title ≠ "")
    (mode : TitleMode) :
    (participant.afterMessage mode).renderedOnce = true ↔
      mode = .first ∨ participant.renderedOnce = true := by
  obtain ⟨title, renderedOnce, enforcedId⟩ := participant
  have htitle : (title != "") = true := bne_iff_ne.mpr h
  cases mode <;> cases renderedOnce <;> simp [afterMessage, showsTitle, htitle]

end Participant

namespace Session

@[simp]
theorem after_append_singleton (config : Config) (past : List Directive) (directive : Directive) :
    after config (past ++ [directive]) = (after config past).advance directive := by
  simp only [after, List.foldl_append, List.foldl_cons, List.foldl_nil]

/-- The participant of a side after a line. -/
theorem get_participants_advance (session : Session) (directive : Directive) (side : Side) :
    (session.advance directive).participants.get side =
      match directive with
      | .title other title enforcedId =>
        if other = side then ⟨title, false, enforcedId⟩ else session.participants.get side
      | .message other _ =>
        if other = side then
          (session.participants.get side).afterMessage session.presentation.titleMode
        else session.participants.get side
      | _ => session.participants.get side := by
  cases directive with
  | title other title enforcedId =>
    simp only [advance, retitle, PerSide.modify, PerSide.get_set, Participant.retitle, eq_comm]
  | message other content =>
    simp only [advance, register, afterMessage, PerSide.modify, PerSide.get_set]
    by_cases hside : side = other
    · rw [if_pos hside, if_pos hside.symm, hside]
    · rw [if_neg hside, if_neg (Ne.symm hside)]
  | setting setting value =>
    simp only [advance, applySetting]
    cases session.presentation.set setting value <;> rfl
  | _ => rfl

/-- What a message does not change of a participant changes with a new title only. -/
theorem participant_advance {α : Type} {read : Participant → α} (session : Session)
    (hread : ∀ participant mode, read (participant.afterMessage mode) = read participant)
    (directive : Directive) (side : Side) :
    read ((session.advance directive).participants.get side) =
      (directive.titleOn? side).elim (read (session.participants.get side))
        fun given ↦ read ⟨given.1, false, given.2⟩ := by
  rw [get_participants_advance]
  cases directive with
  | title other text enforcedId =>
    simp only [Directive.titleOn?]
    split <;> rfl
  | message other content =>
    simp only [Directive.titleOn?, Option.elim_none]
    split
    · exact hread _ _
    · rfl
  | _ => rfl

/-- A valid setting of the title mode puts it in force, and no other line does. -/
theorem titleMode_advance (session : Session) (directive : Directive) :
    (session.advance directive).presentation.titleMode =
      directive.titleMode?.getD session.presentation.titleMode := by
  cases directive with
  | setting setting value =>
    cases setting with
    | titleMode =>
      simp only [advance, applySetting, Presentation.set, Directive.titleMode?]
      cases TitleMode.ofName? value <;> rfl
    | footerMode =>
      simp only [advance, applySetting, Presentation.set]
      cases FooterMode.ofName? value <;> rfl
    | _ => rfl
  | _ => rfl

/-! ### What a session knows of the past -/

/-- The session knows of the lines before what they decide. The mark of an empty title says nothing:
such a title is never shown. -/
structure Recalls (session : Session) (config : Config) (past : List Directive) : Prop where
  title : ∀ side, (session.participants.get side).title = config.titleAfter past side
  enforcedId : ∀ side, (session.participants.get side).enforcedId = enforcedIdAfter past side
  titleMode : session.presentation.titleMode = config.titleModeAfter past
  renderedOnce : ∀ side, config.titleAfter past side ≠ "" →
    ((session.participants.get side).renderedOnce = true ↔ config.HadFirst past side)

/-- Before the first line there is nothing to know. -/
theorem recalls_ofConfig (config : Config) : (ofConfig config).Recalls config [] where
  title side := by cases side <;> rfl
  enforcedId side := by cases side <;> rfl
  titleMode := rfl
  renderedOnce := by
    intro side _
    constructor
    · intro h
      cases side <;> cases h
    · rintro ⟨older, content, newer, hpast, -⟩
      exact absurd hpast (by simp)

/-- A line is known of once it is executed and drawn. -/
theorem Recalls.advance {session : Session} {config : Config} {past : List Directive}
    (h : session.Recalls config past) (directive : Directive) :
    (session.advance directive).Recalls config (past ++ [directive]) where
  title := by
    intro side
    rw [config.titleAfter_append_singleton, ← h.title side]
    exact session.participant_advance Participant.title_afterMessage directive side
  enforcedId := by
    intro side
    rw [enforcedIdAfter_append_singleton, ← h.enforcedId side]
    exact session.participant_advance Participant.enforcedId_afterMessage directive side
  titleMode := by
    rw [titleMode_advance, config.titleModeAfter_append_singleton, h.titleMode]
  renderedOnce := by
    intro side htitle
    rw [config.titleAfter_append_singleton] at htitle
    rw [get_participants_advance, config.hadFirst_append_singleton]
    cases directive with
    | title other text enforcedId =>
      by_cases hother : other = side
      · simp [Directive.titleOn?, hother]
      · simp only [Directive.titleOn?, if_neg hother, Option.elim_none] at htitle
        simp [Directive.titleOn?, hother, h.renderedOnce side htitle]
    | message other content =>
      simp only [Directive.titleOn?, Option.elim_none] at htitle
      by_cases hother : other = side
      · have hshown := h.title side ▸ htitle
        simp [Directive.titleOn?, hother, Participant.renderedOnce_afterMessage hshown,
          h.renderedOnce side htitle, h.titleMode]
      · simp [Directive.titleOn?, hother, h.renderedOnce side htitle]
    | _ =>
      simp only [Directive.titleOn?, Option.elim_none] at htitle
      simp [Directive.titleOn?, h.renderedOnce side htitle]

/-- A session knows of all lines that led to it. -/
theorem recalls_after (config : Config) (past : List Directive) :
    (after config past).Recalls config past := by
  induction past using List.reverseRecOn with
  | nil => exact recalls_ofConfig config
  | append_singleton past directive ih =>
    rw [after_append_singleton]
    exact ih.advance directive

/-- Whether a message shows a title is decided by the lines before it. -/
theorem showsTitle_after (config : Config) (past : List Directive) (side : Side) :
    (after config past).showsTitle side (after config past).presentation.titleMode = true ↔
      config.ShowsTitle past side := by
  have hrecalls := recalls_after config past
  have hshown := hrecalls.renderedOnce side
  rw [Config.ShowsTitle, ← hrecalls.title side, ← hrecalls.titleMode, showsTitle]
  rw [← hrecalls.title side] at hshown
  by_cases htitle : ((after config past).participants.get side).title = ""
  · cases (after config past).presentation.titleMode <;> simp [Participant.showsTitle, htitle]
  · cases (after config past).presentation.titleMode <;>
      simp [Participant.showsTitle, htitle, ← hshown htitle]

end Session

instance (config : Config) (past : List Directive) (side : Side) :
    Decidable (config.ShowsTitle past side) :=
  decidable_of_iff _ (Session.showsTitle_after config past side)

end Colloquy
