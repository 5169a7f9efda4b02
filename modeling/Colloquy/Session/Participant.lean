import Colloquy.Directive.Setting

/-!
# Participants

A participant is the title and the identity bound to one side, with a mark that says whether the
title has been shown since it was given.
-/

namespace Colloquy

/-- The title and identity bound to one side. -/
structure Participant where
  title : String
  /-- Whether the title has been shown under the mode `first` since it was given. -/
  renderedOnce : Bool
  /-- The identity given with the title, if one was. -/
  enforcedId : Option String
  deriving DecidableEq, Repr

namespace Participant

/-- A participant of that title, not shown yet and without an identity of its own. -/
def new (title : String) : Participant := ⟨title, false, none⟩

/-- Give a new title. It may be shown again. -/
def retitle (_ : Participant) (title : String) (enforcedId : Option String) : Participant :=
  ⟨title, false, enforcedId⟩

/-- Whether a message of the participant shows its title. An empty title is never shown. -/
def showsTitle (participant : Participant) : TitleMode → Bool
  | .disabled => false
  | .all => participant.title != ""
  | .first => participant.title != "" && !participant.renderedOnce

/-- The participant after a message of theirs: under the mode `first`, showing the title is
remembered. -/
def afterMessage (participant : Participant) (mode : TitleMode) : Participant :=
  if mode = .first ∧ participant.showsTitle mode then { participant with renderedOnce := true }
  else participant

end Participant
end Colloquy
