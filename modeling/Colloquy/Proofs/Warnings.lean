import Colloquy.Proofs.Performance
import Colloquy.Render.Script

/-!
# Warnings

The warnings of a drawing are read off the script alone. A line is at fault when it gives a mode
setting a value that names no mode, or when it attaches a footer and the line before it is not a
message. `Directive.warningText?` has the words of the warning that it gets then, and the warning
points to the line and to the source of the script. The state that decides about a footer is whether
a message is still waiting, and a message is waiting exactly when the line before was one: that is
the invariant of the drawing.
-/

namespace Colloquy

/-- The words before and after a value that names no mode are the same for all values. -/
theorem Fault.message_unknownMode {setting : Setting} {names : List String} {opening closing : String}
    (hopening : "unknown " ++ setting.keyword ++ " value '" = opening)
    (hclosing : "' (expected one of: " ++ (", ".intercalate names ++
      "); keeping the previous value") = closing) (value : String) :
    (Fault.unknownMode setting value names).message = opening ++ value ++ closing := by
  rw [← hopening, ← hclosing]
  simp only [Fault.message, String.append_assoc]

namespace Directive

/-- Whether the directive is a message. -/
def isMessage : Directive → Bool
  | .message .. => true
  | _ => false

/-- What is wrong with a directive, given the directive of the line before. -/
def fault? (before : Option Directive) : Directive → Option Fault
  | .setting .titleMode value =>
    if value ∈ TitleMode.values.map TitleMode.name then none
    else some (.unknownMode .titleMode value (TitleMode.values.map TitleMode.name))
  | .setting .footerMode value =>
    if value ∈ FooterMode.values.map FooterMode.name then none
    else some (.unknownMode .footerMode value (FooterMode.values.map FooterMode.name))
  | .footerAttachment _ => if before.any isMessage then none else some .danglingFooter
  | _ => none

/-- What the warning about a directive says, given the directive of the line before. -/
def warningText? (before : Option Directive) : Directive → Option String
  | .setting .titleMode value =>
    if value ∈ ["disabled", "all", "first"] then none
    else
      some ("unknown titleMode value '" ++ value ++
        "' (expected one of: disabled, all, first); keeping the previous value")
  | .setting .footerMode value =>
    if value ∈ ["disabled", "all"] then none
    else
      some ("unknown footerMode value '" ++ value ++
        "' (expected one of: disabled, all); keeping the previous value")
  | .footerAttachment _ =>
    if before.any isMessage then none
    else some "footer attachment does not directly follow a message; ignored"
  | _ => none

/-- What is wrong with a directive depends on the line before only in whether that is a message. -/
theorem fault?_congr {before other : Option Directive}
    (h : before.any isMessage = other.any isMessage) (directive : Directive) :
    directive.fault? before = directive.fault? other := by
  cases directive with
  | footerAttachment content => simp only [fault?, h]
  | setting setting value => cases setting <;> rfl
  | _ => rfl

/-- The fault of a directive is reported in the words of its warning. -/
theorem map_message_fault? (before : Option Directive) (directive : Directive) :
    (directive.fault? before).map Fault.message = directive.warningText? before := by
  cases directive with
  | setting setting value =>
    cases setting with
    | titleMode =>
      simp only [fault?, warningText?, TitleMode.values, List.map_cons, List.map_nil,
        TitleMode.name]
      split
      · rfl
      · exact congrArg some (Fault.message_unknownMode rfl rfl value)
    | footerMode =>
      simp only [fault?, warningText?, FooterMode.values, List.map_cons, List.map_nil,
        FooterMode.name]
      split
      · rfl
      · exact congrArg some (Fault.message_unknownMode rfl rfl value)
    | _ => rfl
  | footerAttachment content =>
    simp only [fault?, warningText?]
    split <;> rfl
  | _ => rfl

end Directive

namespace Line

/-- The warning that a line gets, given the directive of the line before: it has the words for what
is wrong with the directive, and points to the line. -/
def warning? (sourceId : Nat) (before : Option Directive) (line : Line) : Option Warning := do
  let text ← line.directive.warningText? before
  return { message := text, span := line.span, sourceId := sourceId }

/-- A line is given the warning for its fault. -/
theorem map_warning_fault? (sourceId : Nat) (before : Option Directive) (line : Line) :
    (line.directive.fault? before).map (·.warning line.span sourceId) =
      line.warning? sourceId before := by
  rw [warning?, ← Directive.map_message_fault?]
  cases line.directive.fault? before <;> rfl

/-- The line before counts only in whether it is a message. -/
theorem warning?_congr {before other : Option Directive}
    (h : before.any Directive.isMessage = other.any Directive.isMessage) (sourceId : Nat)
    (line : Line) : line.warning? sourceId before = line.warning? sourceId other := by
  rw [← map_warning_fault?, ← map_warning_fault?, Directive.fault?_congr h]

end Line

/-- Whether the step asks for a message to be drawn. -/
def Step.showsMessage : Step → Bool
  | .render (.message _) => true
  | _ => false

namespace Script

/-- The directive of the line before the line of an index. -/
def directiveBefore? (script : Script) (index : Nat) : Option Directive :=
  if index = 0 then none else script.lines[index - 1]?.map (·.directive)

/-- The warning that the line of an index gets. -/
def warningAt? (script : Script) (index : Nat) : Option Warning := do
  let line ← script.lines[index]?
  line.warning? script.sourceId (script.directiveBefore? index)

end Script

/-! ### One line -/

/-- A value for a mode is at fault when it is no name of a mode, and no other value is at fault. -/
theorem Session.fault_applySetting (session : Session) (setting : Setting) (value : String)
    (before : Option Directive) :
    (session.applySetting setting value).2 = (Directive.setting setting value).fault? before := by
  cases setting with
  | titleMode =>
    simp only [applySetting, Presentation.set, Directive.fault?]
    cases hmode : TitleMode.ofName? value with
    | none =>
      have hnot : value ∉ TitleMode.values.map TitleMode.name := by
        simpa [TitleMode.ofName?] using hmode
      rw [if_neg hnot]
    | some mode =>
      obtain rfl := TitleMode.ofName?_eq_some_iff.mp hmode
      cases mode <;> rfl
  | footerMode =>
    simp only [applySetting, Presentation.set, Directive.fault?]
    cases hmode : FooterMode.ofName? value with
    | none =>
      have hnot : value ∉ FooterMode.values.map FooterMode.name := by
        simpa [FooterMode.ofName?] using hmode
      rw [if_neg hnot]
    | some mode =>
      obtain rfl := FooterMode.ofName?_eq_some_iff.mp hmode
      cases mode <;> rfl
  | _ => rfl

/-- The faults that are reported for a line are the one that its directive has, as long as a message
waits exactly when the line before was one. -/
theorem Progress.faults_execute {progress : Progress} {before : Option Directive}
    (hpending : progress.pending.isSome = before.any Directive.isMessage) (line : Line) :
    progress.faults (progress.session.execute line) =
      (line.directive.fault? before).toList := by
  obtain ⟨directive, span⟩ := line
  cases directive with
  | setting setting value =>
    simp only [faults, Session.execute, ← Session.fault_applySetting progress.session,
      Step.attachment?, Option.isSome_none, Bool.false_eq_true, false_and, if_false,
      List.append_nil]
  | footerAttachment content =>
    simp only [faults, Session.execute, Step.attachment?, Directive.fault?, ← hpending]
    cases progress.pending <;> rfl
  | unparsed content =>
    simp only [faults, Session.execute]
    by_cases hclean : progress.session.presentation.clean
    · simp only [if_pos hclean]
      rfl
    · simp only [if_neg hclean]
      rfl
  | _ => rfl

/-- After a step is drawn, a message waits exactly when the step shows one. -/
theorem Session.always_drawStep (session : Session) (wrapper : NodeId) (step : Step) :
    (session.drawStep wrapper step).Always fun drawn ↦ drawn.2.isSome = step.showsMessage := by
  cases step with
  | nothing => rfl
  | attachFooter content => rfl
  | render instruction =>
    cases instruction with
    | message message =>
      simp only [drawStep, draw, Drawing.always_bind, Drawing.always_pure, Option.map_some]
      exact Drawing.always_of_forall _ fun _ ↦ Drawing.always_of_forall _ fun _ ↦ rfl
    | _ =>
      simp only [drawStep, Drawing.always_bind, Drawing.always_pure]
      exact Drawing.always_of_forall _ fun _ ↦ rfl

/-- The step of a line shows a message exactly when the line is one. -/
theorem Session.showsMessage_execute (session : Session) (line : Line) :
    (session.execute line).step.showsMessage = line.directive.isMessage := by
  obtain ⟨directive, span⟩ := line
  cases directive with
  | unparsed content =>
    simp only [execute]
    cases session.presentation.clean <;> rfl
  | _ => rfl

/-- Drawing a line adds its warning, and leaves a message waiting exactly when the line is one. -/
theorem Progress.always_drawLine {progress : Progress} {before : Option Directive}
    (hpending : progress.pending.isSome = before.any Directive.isMessage) (wrapper : NodeId)
    (sourceId : Nat) (line : Line) :
    (progress.drawLine wrapper sourceId line).Always fun after ↦
      after.pending.isSome = line.directive.isMessage ∧
      after.warnings = progress.warnings ++ (line.warning? sourceId before).toList := by
  simp only [drawLine, faults_execute hpending, ← Option.toList_map, Line.map_warning_fault?,
    Drawing.always_bind, Drawing.always_pure]
  apply (Session.always_drawStep _ wrapper _).mono
  intro drawn hdrawn
  apply Drawing.always_of_forall
  intro _
  exact ⟨hdrawn.trans (Session.showsMessage_execute _ line), trivial⟩

/-! ### All lines -/

/-- The warnings of consecutive lines, given the directive of the line before the first. -/
def warningsFrom (sourceId : Nat) (before : Option Directive) : List Line → List Warning
  | [] => []
  | line :: rest =>
    (line.warning? sourceId before).toList ++ warningsFrom sourceId (some line.directive) rest

/-- The line before the first counts only in whether it is a message. -/
theorem warningsFrom_congr (sourceId : Nat) {before other : Option Directive}
    (h : before.any Directive.isMessage = other.any Directive.isMessage) (lines : List Line) :
    warningsFrom sourceId before lines = warningsFrom sourceId other lines := by
  cases lines with
  | nil => rfl
  | cons line rest => rw [warningsFrom, warningsFrom, line.warning?_congr h]

/-- The warnings of later lines follow, given the last directive of the earlier ones. -/
theorem warningsFrom_append (sourceId : Nat) (before : Option Directive) (first later : List Line) :
    warningsFrom sourceId before (first ++ later) =
      warningsFrom sourceId before first ++
        warningsFrom sourceId ((first.getLast?.map (·.directive)).or before) later := by
  induction first generalizing before with
  | nil => rfl
  | cons line rest ih =>
    have hlast : ((line :: rest).getLast?.map (·.directive)).or before =
        (rest.getLast?.map (·.directive)).or (some line.directive) := by
      rw [List.getLast?_cons]
      cases rest.getLast? <;> rfl
    rw [hlast, List.cons_append, warningsFrom, ih, warningsFrom, List.append_assoc]

/-- Drawing consecutive lines adds their warnings. -/
theorem always_drawLines (wrapper : NodeId) (sourceId : Nat) (lines : List Line)
    (progress : Progress) (before : Option Directive)
    (hpending : progress.pending.isSome = before.any Directive.isMessage) :
    (lines.foldlM (Progress.drawLine wrapper sourceId) progress).Always fun after ↦
      after.warnings = progress.warnings ++ warningsFrom sourceId before lines := by
  induction lines generalizing progress before with
  | nil => exact (List.append_nil _).symm
  | cons line rest ih =>
    simp only [List.foldlM_cons, Drawing.always_bind, warningsFrom]
    apply (progress.always_drawLine hpending wrapper sourceId line).mono
    rintro middle ⟨hmiddle, hwarnings⟩
    apply (ih middle (some line.directive) hmiddle).mono
    intro after hafter
    rw [hafter, hwarnings, List.append_assoc]

/-- The warning for the line of an index, given the directive of the line before the first. -/
private def warningIn? (sourceId : Nat) (before : Option Directive) (lines : List Line)
    (index : Nat) : Option Warning := do
  let line ← lines[index]?
  line.warning? sourceId (if index = 0 then before else lines[index - 1]?.map (·.directive))

private theorem warningIn?_succ (sourceId : Nat) (before : Option Directive) (line : Line)
    (rest : List Line) (index : Nat) :
    warningIn? sourceId before (line :: rest) (index + 1) =
      warningIn? sourceId (some line.directive) rest index := by
  cases index <;> simp [warningIn?]

private theorem warningsFrom_eq_filterMap (sourceId : Nat) (before : Option Directive)
    (lines : List Line) :
    warningsFrom sourceId before lines =
      (List.range lines.length).filterMap (warningIn? sourceId before lines) := by
  induction lines generalizing before with
  | nil => rfl
  | cons line rest ih =>
    have htail : warningIn? sourceId before (line :: rest) ∘ Nat.succ =
        warningIn? sourceId (some line.directive) rest :=
      funext (warningIn?_succ sourceId before line rest)
    have hhead : warningIn? sourceId before (line :: rest) 0 = line.warning? sourceId before := rfl
    rw [warningsFrom, ih, List.length_cons, List.range_succ_eq_map, List.filterMap_cons,
      List.filterMap_map, htail, hhead]
    cases line.warning? sourceId before <;> rfl

/-- The warnings of a script, line by line. -/
theorem Script.warningsFrom_lines (script : Script) :
    warningsFrom script.sourceId none script.lines =
      (List.range script.lines.length).filterMap script.warningAt? :=
  warningsFrom_eq_filterMap script.sourceId none script.lines

/-- The warnings of every drawing that succeeds are those of the script's own lines, in order. They
are the same for every configuration, sink and markdown renderer. -/
theorem warnings_render {σ : Type} {script : Script} {config : Config} {sink : Sink σ}
    {markdown : MarkdownRenderer σ} {context : MarkdownContext} {state state' : σ}
    {outcome : Outcome}
    (h : script.render config sink markdown context state = (.ok outcome, state')) :
    outcome.warnings = (List.range script.lines.length).filterMap script.warningAt? := by
  have hdraw : (script.draw config (sink.root state)).Always fun outcome ↦
      outcome.warnings = warningsFrom script.sourceId none script.lines := by
    simp only [Script.draw, Drawing.always_bind, Drawing.always_pure]
    apply Drawing.always_of_forall
    intro wrapper
    apply (always_drawLines wrapper script.sourceId script.lines _ none rfl).mono
    intro progress hprogress
    apply Drawing.always_of_forall
    intro _
    exact hprogress
  have hwarnings := hdraw.of_perform h
  rw [hwarnings, warningsFrom_eq_filterMap]
  rfl

/-- A script whose lines are at fault but for a message and the footer after it. -/
def faultyScript : Script where
  lines := [⟨.footerAttachment "early", ⟨0, 7⟩⟩, ⟨.setting .titleMode "loud", ⟨8, 22⟩⟩,
    ⟨.message .left "hi", ⟨23, 26⟩⟩, ⟨.footerAttachment "bye", ⟨27, 32⟩⟩,
    ⟨.footerAttachment "again", ⟨33, 40⟩⟩, ⟨.setting .footerMode "All", ⟨41, 56⟩⟩]
  sourceId := 2

/-- The drawing of the faulty script succeeds with four warnings. -/
theorem warnings_render_faultyScript :
    ∃ outcome tree,
      faultyScript.render .default ElementTree.sink (.plain ElementTree.sink) ⟨""⟩ .empty =
        (.ok outcome, tree) ∧
      outcome.warnings =
        [⟨"footer attachment does not directly follow a message; ignored", ⟨0, 7⟩, 2⟩,
          ⟨"unknown titleMode value 'loud' (expected one of: disabled, all, first); " ++
            "keeping the previous value", ⟨8, 22⟩, 2⟩,
          ⟨"footer attachment does not directly follow a message; ignored", ⟨33, 40⟩, 2⟩,
          ⟨"unknown footerMode value 'All' (expected one of: disabled, all); " ++
            "keeping the previous value", ⟨41, 56⟩, 2⟩] := by
  have hok : (faultyScript.render .default ElementTree.sink (.plain ElementTree.sink) ⟨""⟩
      .empty).1.isOk := by
    decide
  obtain ⟨outcome, tree, hrun⟩ := Action.exists_of_isOk hok
  exact ⟨outcome, tree, hrun, (warnings_render hrun).trans (by decide)⟩

end Colloquy
