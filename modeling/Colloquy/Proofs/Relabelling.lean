import Colloquy.ElementTree.Basic
import Colloquy.Render.Classes
import Colloquy.Session.Execute
import Mathlib.Algebra.Group.End

/-!
# Relabelled sides

A permutation of the sides acts on everything that knows of sides: values kept by side, lines,
sessions, instructions and the wrappers of messages. Main statement: executing a relabelled line in
a relabelled session has the relabelled effect, so no side is special to a session.
-/

namespace Colloquy

variable (p : Equiv.Perm Side)

namespace PerSide

variable {α β : Type}

/-- The values with their sides relabelled. -/
def relabel (values : PerSide α) : PerSide α := ofFn fun side ↦ values.get (p.symm side)

/-- The value of a side goes to the new label of the side. -/
@[simp]
theorem get_relabel (values : PerSide α) (side : Side) :
    (values.relabel p).get (p side) = values.get side := by
  rw [relabel, get_ofFn, Equiv.symm_apply_apply]

/-- Relabelling goes through replacing the value of a side. -/
theorem relabel_set (values : PerSide α) (side : Side) (value : α) :
    (values.set side value).relabel p = (values.relabel p).set (p side) value := by
  apply ext_get
  intro other
  simp only [relabel, get_ofFn, get_set, Equiv.symm_apply_eq]

/-- Relabelling goes through changing the value of a side. -/
theorem relabel_modify (values : PerSide α) (side : Side) (change : α → α) :
    (values.modify side change).relabel p = (values.relabel p).modify (p side) change := by
  rw [modify, relabel_set, modify, get_relabel]

/-- Relabelling goes through a function on the values. -/
theorem relabel_map (f : α → β) (values : PerSide α) :
    (values.map f).relabel p = (values.relabel p).map f := by
  have hget : ∀ (values : PerSide α) (side : Side), (values.map f).get side =
      f (values.get side) := by
    intro values side
    cases side <;> rfl
  apply ext_get
  intro side
  simp only [relabel, get_ofFn, hget]

/-- Nothing changes when every side keeps its label. -/
@[simp]
theorem relabel_one (values : PerSide α) : values.relabel 1 = values := by
  apply ext_get
  intro side
  rw [relabel, get_ofFn]
  rfl

end PerSide

/-! ### Scripts and configurations -/

/-- The directive for the new label of its side. -/
def Directive.relabel : Directive → Directive
  | .title side text enforcedId => .title (p side) text enforcedId
  | .footerDefault side text => .footerDefault (p side) text
  | .message side text => .message (p side) text
  | other => other

/-- The line with its directive relabelled. -/
def Line.relabel (line : Line) : Line := { line with directive := line.directive.relabel p }

/-- The script with its lines relabelled. -/
def Script.relabel (script : Script) : Script :=
  { script with lines := script.lines.map (Line.relabel p) }

/-- The configuration with the titles and the footers of the sides relabelled. -/
def Config.relabel (config : Config) : Config :=
  { config with
    titles := config.titles.relabel p
    footers := config.footers.relabel p }

@[simp]
theorem Directive.relabel_one (directive : Directive) : directive.relabel 1 = directive := by
  cases directive <;> rfl

@[simp]
theorem Script.relabel_one (script : Script) : script.relabel 1 = script := by
  have hline : Line.relabel 1 = id := funext fun line ↦ by
    rw [Line.relabel, Directive.relabel_one]
    rfl
  rw [relabel, hline, List.map_id]

@[simp]
theorem Config.relabel_one (config : Config) : config.relabel 1 = config := by
  rw [relabel, PerSide.relabel_one, PerSide.relabel_one]

/-! ### Elements -/

/-- The role for the new label of its side. Only the wrapper of a message has a side. -/
def Role.relabel : Role → Role
  | .message side => .message (p side)
  | other => other

/-- The classes of an element of the role for the new label of its side. -/
def Role.relabelClasses (role : Role) (classes : List String) : List String :=
  match role with
  | .message side =>
    classes.map fun className ↦
      if className = Classes.messageWrapper side then Classes.messageWrapper (p side)
      else className
  | _ => classes

/-- The element with role and classes for the new label of its side. -/
def Element.relabel (element : Element) : Element :=
  { element with
    role := element.role.relabel p
    classes := element.role.relabelClasses p element.classes }

@[simp]
theorem Element.relabel_one (element : Element) : element.relabel 1 = element := by
  obtain ⟨role, classes, attributes, styles, content, children⟩ := element
  cases role with
  | message side =>
    have hclass : (fun className ↦ if className = Classes.messageWrapper side then
        Classes.messageWrapper side else className) = id := by
      funext className
      split
      · next h => exact h.symm
      · rfl
    simp only [relabel, Role.relabel, Role.relabelClasses, Equiv.Perm.one_apply, hclass,
      List.map_id]
  | _ => rfl

/-! ### Sessions -/

/-- The session with what it keeps by side relabelled. -/
def Session.relabel (session : Session) : Session :=
  { session with
    participants := session.participants.relabel p
    footers := session.footers.relabel p }

/-- The message for the new label of its side. -/
def MessageInstruction.relabel (message : MessageInstruction) : MessageInstruction :=
  { message with side := p message.side }

/-- The instruction for the new label of its side. -/
def Instruction.relabel : Instruction → Instruction
  | .message shown => .message (shown.relabel p)
  | other => other

/-- The step for the new label of its side. -/
def Step.relabel : Step → Step
  | .render instruction => .render (instruction.relabel p)
  | other => other

/-- The effect with its session and its step relabelled. -/
def Effect.relabel (effect : Effect) : Effect :=
  { effect with
    session := effect.session.relabel p
    step := effect.step.relabel p }

namespace Session

/-- A relabelled configuration starts a relabelled session. -/
theorem ofConfig_relabel (config : Config) :
    ofConfig (config.relabel p) = (ofConfig config).relabel p := by
  rw [ofConfig, Config.relabel, ← PerSide.relabel_map]
  rfl

/-- A side shows its title whatever its label is. -/
theorem showsTitle_relabel (session : Session) (side : Side) (mode : TitleMode) :
    (session.relabel p).showsTitle (p side) mode = session.showsTitle side mode := by
  rw [showsTitle, relabel, PerSide.get_relabel, showsTitle]

/-- A message changes a relabelled session as it changes the session. -/
theorem afterMessage_relabel (session : Session) (side : Side) (mode : TitleMode) :
    (session.relabel p).afterMessage (p side) mode =
      (session.afterMessage side mode).relabel p := by
  simp only [afterMessage, relabel, PerSide.relabel_modify]

/-- A message is the same in a relabelled session, but for its side. -/
theorem messageOf_relabel (session : Session) (side : Side) (content : String) (span : Span) :
    (session.relabel p).messageOf (p side) content span =
      (session.messageOf side content span).relabel p := by
  simp only [messageOf, relabel, defaultFooter?, PerSide.get_relabel, MessageInstruction.relabel]

/-- A setting changes a relabelled session as it changes the session. -/
theorem applySetting_relabel (session : Session) (setting : Setting) (value : String) :
    (session.relabel p).applySetting setting value =
      let (after, fault) := session.applySetting setting value
      (after.relabel p, fault) := by
  simp only [applySetting, relabel]
  cases session.presentation.set setting value <;> rfl

/-- A relabelled line has the relabelled effect on a relabelled session. -/
theorem execute_relabel (session : Session) (line : Line) :
    (session.relabel p).execute (line.relabel p) = (session.execute line).relabel p := by
  obtain ⟨directive, span⟩ := line
  cases directive with
  | title side title enforcedId =>
    simp only [Line.relabel, Directive.relabel, execute, retitle, Effect.relabel, relabel,
      PerSide.relabel_modify, Step.relabel]
  | footerDefault side content =>
    simp only [Line.relabel, Directive.relabel, execute, Effect.relabel, relabel,
      PerSide.relabel_set, Step.relabel]
  | setting setting value =>
    simp only [Line.relabel, Directive.relabel, execute, applySetting_relabel, Effect.relabel,
      Step.relabel]
  | message side content =>
    have hregister : (session.relabel p).register
        ((session.relabel p).participants.get (p side)).title =
          (session.register (session.participants.get side).title).relabel p := by
      simp only [register, relabel, PerSide.get_relabel]
    simp only [Line.relabel, Directive.relabel, execute, hregister, messageOf_relabel,
      Effect.relabel, Step.relabel, Instruction.relabel]
  | unparsed content =>
    simp only [Line.relabel, Directive.relabel, execute]
    change (if session.presentation.clean then _ else _) = _
    split <;> rfl
  | _ => rfl

end Session
end Colloquy
