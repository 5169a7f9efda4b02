import Colloquy.Proofs.Sketch
import Colloquy.Proofs.Warnings

/-!
# Outcomes

What a drawing gives besides the nodes does not depend on what a sink or a markdown renderer does:
the warnings are decided by the lines of the script alone, and the registry by the lines and the
configuration. So drawings of one script differ in their outcomes at most in the registry.
-/

namespace Colloquy

open Drawing

/-- Results that satisfy two demands satisfy both at once. -/
theorem Drawing.Always.and {α : Type} {first second : α → Prop} {drawing : Drawing α}
    (hfirst : drawing.Always first) (hsecond : drawing.Always second) :
    drawing.Always fun result ↦ first result ∧ second result := by
  induction drawing with
  | done result => exact ⟨hfirst, hsecond⟩
  | create parent role classes next ih => exact fun node ↦ ih node (hfirst node) (hsecond node)
  | edit node change next ih => exact ih hfirst hsecond
  | markdown source target next ih => exact ih hfirst hsecond

/-- Executing and drawing a line advances the session. -/
theorem Session.always_drawStep_execute (session : Session) (wrapper : NodeId) (line : Line) :
    ((session.execute line).session.drawStep wrapper (session.execute line).step).Always
      fun drawn ↦ drawn.1 = session.advance line.directive := by
  obtain ⟨directive, span⟩ := line
  cases directive with
  | message side content =>
    simp only [execute, drawStep, draw, always_bind, always_pure]
    exact always_of_forall _ fun _ ↦ always_of_forall _ fun _ ↦ rfl
  | comment content =>
    simp only [execute, drawStep, draw, always_bind, always_pure]
    exact always_of_forall _ fun _ ↦ rfl
  | delimiter =>
    simp only [execute, drawStep, draw, always_bind, always_pure]
    exact always_of_forall _ fun _ ↦ rfl
  | unparsed content =>
    simp only [execute]
    split
    · rfl
    · simp only [drawStep, draw, always_bind, always_pure]
      exact always_of_forall _ fun _ ↦ rfl
  | _ => rfl

/-- Drawing a line advances the session. -/
theorem Progress.always_session_drawLine (progress : Progress) (wrapper : NodeId) (sourceId : Nat)
    (line : Line) :
    (progress.drawLine wrapper sourceId line).Always fun after ↦
      after.session = progress.session.advance line.directive := by
  simp only [drawLine, always_bind, always_pure]
  apply (progress.session.always_drawStep_execute wrapper line).mono
  intro drawn hdrawn
  exact always_of_forall _ fun _ ↦ hdrawn

/-- Drawing consecutive lines advances the session by one after the other. -/
theorem Progress.always_session_drawLines (wrapper : NodeId) (sourceId : Nat) (lines : List Line)
    (progress : Progress) :
    (lines.foldlM (drawLine wrapper sourceId) progress).Always fun after ↦
      after.session = (lines.map (·.directive)).foldl Session.advance progress.session := by
  induction lines generalizing progress with
  | nil => rfl
  | cons line rest ih =>
    rw [List.foldlM_cons, always_bind]
    apply (progress.always_session_drawLine wrapper sourceId line).mono
    intro middle hmiddle
    apply (ih middle).mono
    intro after hafter
    rw [hafter, hmiddle, List.map_cons, List.foldl_cons]

namespace Script

/-- What the drawing of a script gives besides the nodes: the warnings of its lines, and the registry
of the session that they lead to. -/
def outcome (script : Script) (config : Config) : Outcome :=
  ⟨warningsFrom script.sourceId none script.lines,
    (Session.after config script.directives).registry⟩

/-- Whatever handles a drawing is given, it comes to the outcome of the script. -/
theorem always_draw (script : Script) (config : Config) (root : NodeId) :
    (script.draw config root).Always (· = script.outcome config) := by
  simp only [draw, always_bind, always_pure]
  apply always_of_forall
  intro wrapper
  apply ((Progress.always_session_drawLines wrapper script.sourceId script.lines _).and
    (always_drawLines wrapper script.sourceId script.lines _ none rfl)).mono
  rintro progress ⟨hsession, hwarnings⟩
  apply always_of_forall
  intro _
  rw [hsession, hwarnings]
  rfl

end Script
end Colloquy
