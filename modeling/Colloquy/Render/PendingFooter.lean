import Colloquy.Sink.Basic
import Colloquy.Text.Bytes

/-!
# The pending footer

A message waits one line for its footer. The line after it settles the matter: an explicit footer
is attached, else the default footer that the message brought along, if there is one.
-/

namespace Colloquy

/-- A drawn message that waits for its footer. -/
structure PendingMessage where
  /-- The box that the footer goes into. -/
  bubble : NodeId
  defaultFooter : Option String
  /-- Whether the footer goes through the markdown renderer. -/
  markdown : Bool
  span : Span
  deriving DecidableEq, Repr

/-- The message that waits, if there is one. -/
abbrev PendingFooter := Option PendingMessage

namespace PendingFooter

/-- The message that waits and the footer it gets, if it gets one. No message waits any longer
afterwards. -/
def resolve (pending : PendingFooter) (explicit : Option String) :
    Option (PendingMessage × String) := do
  let message ← pending
  let footer ← explicit <|> message.defaultFooter
  return (message, footer)

/-- The message that is resolved is the one that waits, and it gets the explicit footer, or else its
default footer. -/
theorem resolve_eq_some_iff {pending : PendingFooter} {explicit : Option String}
    {message : PendingMessage} {footer : String} :
    pending.resolve explicit = some (message, footer) ↔
      pending = some message ∧ (explicit <|> message.defaultFooter) = some footer := by
  simp only [resolve, Option.bind_eq_bind, Option.bind_eq_some_iff, Option.pure_def,
    Option.some.injEq, Prod.mk.injEq]
  constructor
  · rintro ⟨waiting, hwaiting, chosen, hchosen, rfl, rfl⟩
    exact ⟨hwaiting, hchosen⟩
  · rintro ⟨hwaiting, hchosen⟩
    exact ⟨message, hwaiting, footer, hchosen, rfl, rfl⟩

end PendingFooter
end Colloquy
