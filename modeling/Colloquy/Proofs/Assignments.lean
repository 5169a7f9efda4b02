import Colloquy.Proofs.Preamble
import Colloquy.Proofs.Requests

/-!
# Assignments

A title line, a line for a default footer and a setting line each assign to one target and leave all
others alone. What a session holds for the targets, with the registry, is the whole session; so two
assignments to different targets come to the same session in either order, and of two assignments to
one target only the later counts. Each of these lines also settles the footer of the message before
it, but as none brings a footer along, two of them settle it as one does, and in either order.
-/

namespace Colloquy

/-- What a line can assign to. -/
inductive Target where
  | title (side : Side)
  | footer (side : Side)
  | setting (setting : Setting)
  deriving DecidableEq, Repr

/-- What a setting holds once it is given a value that is valid for it. -/
def Setting.reading? (setting : Setting) (value : String) : Option String :=
  match setting with
  | .titleMode => (TitleMode.ofName? value).map TitleMode.name
  | .footerMode => (FooterMode.ofName? value).map FooterMode.name
  | .messageMaxWidth | .commentMaxWidth => some value
  | _ => some (toggleName (parseToggle value))

namespace Directive

/-- The target of a directive that only assigns. -/
def target? : Directive → Option Target
  | .title side _ _ => some (.title side)
  | .footerDefault side _ => some (.footer side)
  | .setting kind _ => some (.setting kind)
  | _ => none

/-- What the target of a directive holds afterwards, if the directive carries a valid value. -/
def assigned? : Directive → Option (Participant ⊕ String)
  | .title _ name enforcedId => some (.inl ⟨name, false, enforcedId⟩)
  | .footerDefault _ content => some (.inr content)
  | .setting kind value => (kind.reading? value).map .inr
  | _ => none

/-- An assignment is at fault for its own value only, whatever the line before. -/
theorem fault?_of_target? {directive : Directive} {target : Target}
    (h : directive.target? = some target) (before : Option Directive) :
    directive.fault? before = directive.fault? none := by
  cases directive with
  | setting setting value => cases setting <;> rfl
  | footerAttachment content => cases h
  | _ => rfl

/-- No assignment is a message. -/
theorem isMessage_of_target? {directive : Directive} {target : Target}
    (h : directive.target? = some target) : directive.isMessage = false := by
  cases directive with
  | message side content => cases h
  | _ => rfl

/-- An assignment that is not at fault carries a valid value. -/
theorem isSome_assigned? {directive : Directive} {target : Target}
    (h : directive.target? = some target) (hvalid : directive.fault? none = none) :
    directive.assigned?.isSome := by
  cases directive with
  | title | footerDefault => rfl
  | setting setting value =>
    cases setting with
    | titleMode =>
      have hmem : value ∈ TitleMode.values.map TitleMode.name := by
        by_contra hnot
        simp [fault?, hnot] at hvalid
      obtain ⟨mode, -, rfl⟩ := List.mem_map.mp hmem
      simp [assigned?, Setting.reading?, TitleMode.ofName?_eq_some_iff.mpr rfl]
    | footerMode =>
      have hmem : value ∈ FooterMode.values.map FooterMode.name := by
        by_contra hnot
        simp [fault?, hnot] at hvalid
      obtain ⟨mode, -, rfl⟩ := List.mem_map.mp hmem
      simp [assigned?, Setting.reading?, FooterMode.ofName?_eq_some_iff.mpr rfl]
    | _ => rfl
  | _ => cases h

end Directive

/-! ### What a session holds -/

/-- A setting that is given a value holds what is read from it, or keeps what it holds if the value
is not valid. The other settings keep what they hold. -/
theorem Session.value_applySetting (session : Session) (setting : Setting) (value : String)
    (asked : Setting) :
    (session.applySetting setting value).1.presentation.value asked =
      if asked = setting then (setting.reading? value).getD (session.presentation.value asked)
      else session.presentation.value asked := by
  cases setting with
  | titleMode =>
    simp only [applySetting, Presentation.set, Setting.reading?]
    cases TitleMode.ofName? value <;> cases asked <;> rfl
  | footerMode =>
    simp only [applySetting, Presentation.set, Setting.reading?]
    cases FooterMode.ofName? value <;> cases asked <;> rfl
  | _ => cases asked <;> rfl

/-- Giving a setting a value changes nothing but the presentation. -/
theorem Session.applySetting_eq (session : Session) (setting : Setting) (value : String) :
    (session.applySetting setting value).1 =
      { session with presentation := (session.applySetting setting value).1.presentation } := by
  unfold applySetting
  cases session.presentation.set setting value <;> rfl

namespace Session

/-- What a session holds for a target. -/
def held (session : Session) : Target → Participant ⊕ String
  | .title side => .inl (session.participants.get side)
  | .footer side => .inr (session.footers.get side)
  | .setting setting => .inr (session.presentation.value setting)

/-- Sessions that hold the same for every target, and have the same registry, are equal. -/
theorem ext_held {session other : Session} (hregistry : session.registry = other.registry)
    (h : ∀ target, session.held target = other.held target) : session = other := by
  have hparticipants : session.participants = other.participants :=
    PerSide.ext_get fun side ↦ Sum.inl.inj (h (.title side))
  have hfooters : session.footers = other.footers :=
    PerSide.ext_get fun side ↦ Sum.inr.inj (h (.footer side))
  have hpresentation : session.presentation = other.presentation :=
    Presentation.ext_value fun setting ↦ Sum.inr.inj (h (.setting setting))
  cases session
  cases other
  cases hparticipants
  cases hfooters
  cases hpresentation
  cases hregistry
  rfl

variable {first second : Directive} {target other : Target}

/-- An assignment gives its target the value that it carries, if that is valid, and leaves what the
session holds for all other targets. -/
theorem held_advance (h : first.target? = some target) (session : Session) (asked : Target) :
    (session.advance first).held asked =
      if asked = target then first.assigned?.getD (session.held asked)
      else session.held asked := by
  cases first with
  | title side title enforcedId =>
    cases h
    cases asked with
    | title asked =>
      simp only [advance, retitle, PerSide.modify, PerSide.get_set, held, Target.title.injEq,
        Directive.assigned?, Option.getD_some]
      split <;> rfl
    | _ => rfl
  | footerDefault side content =>
    cases h
    cases asked with
    | footer asked =>
      simp only [advance, PerSide.get_set, held, Target.footer.injEq, Directive.assigned?,
        Option.getD_some]
      split <;> rfl
    | _ => rfl
  | setting setting value =>
    cases h
    rw [advance]
    cases asked with
    | setting asked =>
      simp only [held, value_applySetting, Target.setting.injEq, Directive.assigned?]
      split
      · cases setting.reading? value <;> rfl
      · rfl
    | _ =>
      rw [applySetting_eq]
      rfl
  | _ => cases h

/-- An assignment registers no title. -/
theorem registry_advance_of_target? (h : first.target? = some target) (session : Session) :
    (session.advance first).registry = session.registry := by
  cases first with
  | title | footerDefault => rfl
  | setting setting value => rw [advance, applySetting_eq]
  | _ => cases h

/-- Assignments to different targets come to the same session in either order. -/
theorem advance_comm (hfirst : first.target? = some target) (hsecond : second.target? = some other)
    (hne : target ≠ other) (session : Session) :
    (session.advance second).advance first = (session.advance first).advance second := by
  apply ext_held
  · simp only [registry_advance_of_target? hfirst, registry_advance_of_target? hsecond]
  · intro asked
    simp only [held_advance hfirst, held_advance hsecond]
    by_cases htarget : asked = target
    · have hother : asked ≠ other := htarget ▸ hne
      simp only [if_pos htarget, if_neg hother]
    · simp only [if_neg htarget]

/-- Of two assignments to one target only the later counts, if its value is valid. -/
theorem advance_absorb (hfirst : first.target? = some target)
    (hsecond : second.target? = some target) (hvalid : second.assigned?.isSome)
    (session : Session) :
    (session.advance first).advance second = session.advance second := by
  obtain ⟨value, hvalue⟩ := Option.isSome_iff_exists.mp hvalid
  apply ext_held
  · simp only [registry_advance_of_target? hfirst, registry_advance_of_target? hsecond]
  · intro asked
    simp only [held_advance hfirst, held_advance hsecond, hvalue, Option.getD_some]
    split <;> rfl

end Session

/-! ### Drawing assignments -/

section Drawing

variable {first second : Directive} {target other : Target}

/-- An assignment draws nothing of its own. It settles the footer of the message before it. -/
theorem Directive.draw_of_target? (h : first.target? = some target) (wrapper : NodeId)
    (before : Session × PendingFooter) :
    first.draw wrapper before = do
      settleFooter before.2 none
      return (before.1.advance first, none) := by
  cases first with
  | title | footerDefault | setting =>
    simp only [draw, Session.execute, Session.drawStep, Step.attachment?, pure_bind]
    rfl
  | _ => cases h

/-- Where no message waits there is no footer to settle. -/
theorem settleFooter_none (explicit : Option String) : settleFooter none explicit = pure () := rfl

/-- Adjacent assignments to different targets may change places. -/
theorem Config.drawDirectives_exchange (hfirst : first.target? = some target)
    (hsecond : second.target? = some other) (hne : target ≠ other) (config : Config)
    (before after : List Directive) :
    config.drawDirectives (before ++ second :: first :: after) =
      config.drawDirectives (before ++ first :: second :: after) := by
  funext root
  -- After either assignment no message waits, so the other one has no footer to settle.
  simp only [drawDirectives, List.foldlM_append, List.foldlM_cons,
    Directive.draw_of_target? hfirst, Directive.draw_of_target? hsecond, settleFooter_none,
    bind_assoc, pure_bind, Session.advance_comm hfirst hsecond hne]

/-- An assignment may be left out right before another one to the same target. -/
theorem Config.drawDirectives_delete (hfirst : first.target? = some target)
    (hsecond : second.target? = some target) (hvalid : second.assigned?.isSome) (config : Config)
    (before after : List Directive) :
    config.drawDirectives (before ++ second :: after) =
      config.drawDirectives (before ++ first :: second :: after) := by
  funext root
  simp only [drawDirectives, List.foldlM_append, List.foldlM_cons,
    Directive.draw_of_target? hfirst, Directive.draw_of_target? hsecond, settleFooter_none,
    bind_assoc, pure_bind, Session.advance_absorb hfirst hsecond hvalid]

end Drawing

/-- The warnings that a line is given wherever it stands, as long as it attaches no footer. -/
def Line.ownWarnings (sourceId : Nat) (line : Line) : List Warning :=
  (line.warning? sourceId none).toList

/-- The first of some lines, if it is an assignment, has its own warnings, and the lines after it
have theirs as if they were the first. -/
theorem warningsFrom_cons_of_target? {line : Line} {target : Target}
    (h : line.directive.target? = some target) (sourceId : Nat) (before : Option Directive)
    (rest : List Line) :
    warningsFrom sourceId before (line :: rest) =
      line.ownWarnings sourceId ++ warningsFrom sourceId none rest := by
  have hrest : (some line.directive).any Directive.isMessage = (none : Option Directive).any
      Directive.isMessage :=
    Directive.isMessage_of_target? h
  have hown : line.warning? sourceId before = line.warning? sourceId none := by
    rw [← Line.map_warning_fault?, ← Line.map_warning_fault?, Directive.fault?_of_target? h]
  rw [warningsFrom, hown, warningsFrom_congr sourceId hrest]
  rfl

namespace Script

variable {first second : Line} {target other : Target}

/-- The warnings of a script with two adjacent assignments. -/
theorem warnings_outcome_of_targets (hfirst : first.directive.target? = some target)
    (hsecond : second.directive.target? = some other) (before after : List Line) (sourceId : Nat)
    (config : Config) :
    (outcome ⟨before ++ first :: second :: after, sourceId⟩ config).warnings =
      warningsFrom sourceId none before ++ first.ownWarnings sourceId ++
        second.ownWarnings sourceId ++ warningsFrom sourceId none after := by
  simp only [outcome, warningsFrom_append, warningsFrom_cons_of_target? hfirst,
    warningsFrom_cons_of_target? hsecond, List.append_assoc]

/-- Adjacent assignments to different targets lead to the same registry in either order. -/
theorem registry_outcome_exchange (hfirst : first.directive.target? = some target)
    (hsecond : second.directive.target? = some other) (hne : target ≠ other)
    (before after : List Line) (sourceId : Nat) (config : Config) :
    (outcome ⟨before ++ second :: first :: after, sourceId⟩ config).registry =
      (outcome ⟨before ++ first :: second :: after, sourceId⟩ config).registry := by
  simp only [outcome, Session.after, directives, List.map_append, List.map_cons,
    List.foldl_append, List.foldl_cons, Session.advance_comm hfirst hsecond hne]

/-- A valid assignment right before another one to the same target is not part of the outcome. -/
theorem outcome_delete (hfirst : first.directive.target? = some target)
    (hsecond : second.directive.target? = some target)
    (hvalid : first.directive.fault? none = none) (hvalid' : second.directive.fault? none = none)
    (before after : List Line) (sourceId : Nat) (config : Config) :
    outcome ⟨before ++ second :: after, sourceId⟩ config =
      outcome ⟨before ++ first :: second :: after, sourceId⟩ config := by
  have hown : first.ownWarnings sourceId = [] := by
    rw [Line.ownWarnings, ← Line.map_warning_fault?, hvalid]
    rfl
  simp only [outcome, warningsFrom_append, warningsFrom_cons_of_target? hfirst,
    warningsFrom_cons_of_target? hsecond, hown, List.nil_append, Session.after, directives,
    List.map_append, List.map_cons, List.foldl_append, List.foldl_cons,
    Session.advance_absorb hfirst hsecond (Directive.isSome_assigned? hsecond hvalid')]

/-- A valid assignment right before another one to the same target is not part of the drawing. -/
theorem draw_delete (hfirst : first.directive.target? = some target)
    (hsecond : second.directive.target? = some target)
    (hvalid : first.directive.fault? none = none) (hvalid' : second.directive.fault? none = none)
    (before after : List Line) (sourceId : Nat) (config : Config) (root : NodeId) :
    draw ⟨before ++ second :: after, sourceId⟩ config root =
      draw ⟨before ++ first :: second :: after, sourceId⟩ config root := by
  have hassigned := Directive.isSome_assigned? hsecond hvalid'
  rw [draw_eq_map, draw_eq_map,
    outcome_delete hfirst hsecond hvalid hvalid' before after sourceId config]
  simp only [directives, List.map_append, List.map_cons,
    Config.drawDirectives_delete hfirst hsecond hassigned config]

/-- Adjacent assignments to different targets are drawn alike in either order. -/
theorem drawDirectives_exchange (hfirst : first.directive.target? = some target)
    (hsecond : second.directive.target? = some other) (hne : target ≠ other)
    (before after : List Line) (sourceId : Nat) (config : Config) :
    config.drawDirectives (directives ⟨before ++ second :: first :: after, sourceId⟩) =
      config.drawDirectives (directives ⟨before ++ first :: second :: after, sourceId⟩) := by
  simp only [directives, List.map_append, List.map_cons]
  exact Config.drawDirectives_exchange hfirst hsecond hne config _ _

end Script

/-- Two adjacent lines that only assign. If their targets differ they may change places: the
requests to the sink and to the markdown renderer stay the same, every run comes to the same state
and the same result, and only the warnings of the two lines themselves change places. If their
target is the same and both values are valid, the first may be left out, and every run stays the
same altogether. -/
theorem render_of_adjacent_targets {first second : Line} {target other : Target}
    (hfirst : first.directive.target? = some target)
    (hsecond : second.directive.target? = some other) (before after : List Line) (sourceId : Nat)
    (config : Config) :
    let script : Script := ⟨before ++ first :: second :: after, sourceId⟩
    let exchanged : Script := ⟨before ++ second :: first :: after, sourceId⟩
    let shortened : Script := ⟨before ++ second :: after, sourceId⟩
    (target ≠ other →
      (∀ root, (exchanged.draw config root).requests = (script.draw config root).requests) ∧
      ∃ early late registry, ∀ {σ : Type} (sink : Sink σ) (markdown : MarkdownRenderer σ)
        (context : MarkdownContext) (state : σ),
        let run := script.render config sink markdown context state
        let run' := exchanged.render config sink markdown context state
        run'.2 = run.2 ∧
          ((∃ error, run.1 = .error error ∧ run'.1 = .error error) ∨
            run.1 = .ok ⟨early ++ first.ownWarnings sourceId ++ second.ownWarnings sourceId ++
              late, registry⟩ ∧
            run'.1 = .ok ⟨early ++ second.ownWarnings sourceId ++ first.ownWarnings sourceId ++
              late, registry⟩)) ∧
    (target = other → first.directive.fault? none = none → second.directive.fault? none = none →
      (∀ root, shortened.draw config root = script.draw config root) ∧
      ∀ {σ : Type} (sink : Sink σ) (markdown : MarkdownRenderer σ) (context : MarkdownContext),
        shortened.render config sink markdown context =
          script.render config sink markdown context) := by
  intro script exchanged shortened
  constructor
  · intro hne
    have hdirectives := Script.drawDirectives_exchange hfirst hsecond hne before after sourceId config
    constructor
    · intro root
      rw [Script.requests_draw, Script.requests_draw, hdirectives]
    · refine ⟨warningsFrom sourceId none before, warningsFrom sourceId none after,
        (script.outcome config).registry, ?_⟩
      intro σ sink markdown context state
      obtain ⟨hstate, hresult⟩ :=
        Script.render_of_drawDirectives_eq hdirectives sink markdown context state
      have houtcome : script.outcome config = ⟨_, (script.outcome config).registry⟩ :=
        congrArg (Outcome.mk · _)
          (Script.warnings_outcome_of_targets hfirst hsecond before after sourceId config)
      have houtcome' : exchanged.outcome config = ⟨_, (script.outcome config).registry⟩ :=
        congrArg₂ Outcome.mk
          (Script.warnings_outcome_of_targets hsecond hfirst before after sourceId config)
          (Script.registry_outcome_exchange hfirst hsecond hne before after sourceId config)
      rw [← houtcome, ← houtcome']
      exact ⟨hstate, hresult⟩
  · rintro rfl hvalid hvalid'
    have hdraw : ∀ root, shortened.draw config root = script.draw config root :=
      Script.draw_delete hfirst hsecond hvalid hvalid' before after sourceId config
    refine ⟨hdraw, ?_⟩
    intro σ sink markdown context
    simp only [Script.render, hdraw]

/-- The lines up to a message that waits and has a default footer. -/
def awaitingLines : List Line :=
  [⟨.setting .footerMode "all", ⟨0, 15⟩⟩, ⟨.footerDefault .left "sent", ⟨16, 32⟩⟩,
    ⟨.message .left "hi", ⟨33, 36⟩⟩]

/-- A footer that comes too late, and another message. -/
def lateLines : List Line := [⟨.footerAttachment "bye", ⟨80, 85⟩⟩, ⟨.message .left "ho", ⟨86, 89⟩⟩]

/-- Between a message that waits and a footer, two faulty lines of different settings change places,
and of two titles the first is left out. -/
theorem render_of_adjacent_targets_awaitingLines :
    let footerLine : Line := ⟨.setting .footerMode "loud", ⟨37, 53⟩⟩
    let titleLine : Line := ⟨.setting .titleMode "shout", ⟨54, 70⟩⟩
    let ann : Line := ⟨.title .left "Ann" none, ⟨37, 48⟩⟩
    let bob : Line := ⟨.title .left "Bob" (some "7"), ⟨49, 62⟩⟩
    let sink := ElementTree.sink.traced none
    let run := fun lines : List Line ↦
      Script.render ⟨awaitingLines ++ lines, 0⟩ .default sink (.plain sink) ⟨""⟩ ([], .empty)
    (∃ early late registry,
      (run (footerLine :: titleLine :: lateLines)).1 = .ok ⟨early ++ footerLine.ownWarnings 0 ++
        titleLine.ownWarnings 0 ++ late, registry⟩ ∧
      (run (titleLine :: footerLine :: lateLines)).1 = .ok ⟨early ++ titleLine.ownWarnings 0 ++
        footerLine.ownWarnings 0 ++ late, registry⟩ ∧
      (run (titleLine :: footerLine :: lateLines)).2 =
        (run (footerLine :: titleLine :: lateLines)).2) ∧
    footerLine.ownWarnings 0 ≠ titleLine.ownWarnings 0 ∧
    run (bob :: lateLines) = run (ann :: bob :: lateLines) := by
  intro footerLine titleLine ann bob sink run
  obtain ⟨hexchange, -⟩ := @render_of_adjacent_targets footerLine titleLine _ _ rfl rfl
    awaitingLines lateLines 0 .default
  obtain ⟨-, hdelete⟩ := @render_of_adjacent_targets ann bob _ _ rfl rfl awaitingLines lateLines 0
    .default
  refine ⟨?_, by decide, ?_⟩
  · obtain ⟨-, early, late, registry, hrender⟩ := hexchange (by decide)
    obtain ⟨hstate, ⟨error, herror, -⟩ | ⟨hrun, hrun'⟩⟩ := hrender sink (.plain sink) ⟨""⟩
      ([], .empty)
    · have hok : (run (footerLine :: titleLine :: lateLines)).1.isOk := by decide +kernel
      simp only [run, herror] at hok
      cases hok
    · exact ⟨early, late, registry, hrun, hrun', hstate⟩
  · obtain ⟨-, hrender⟩ := hdelete rfl rfl rfl
    exact congrFun (hrender sink (.plain sink) ⟨""⟩) ([], .empty)

end Colloquy
