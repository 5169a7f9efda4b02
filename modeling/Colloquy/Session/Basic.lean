import Colloquy.Config.Basic
import Colloquy.Session.Participant
import Colloquy.Session.Registry

/-!
# Sessions

A session is everything that the lines of a block can change while the block is read. It starts
from a configuration and is changed line by line, in order.
-/

namespace Colloquy

/-- What the lines read so far have established. -/
structure Session where
  participants : PerSide Participant
  /-- The default footer of each side. -/
  footers : PerSide String
  presentation : Presentation
  registry : Registry
  deriving DecidableEq, Repr

namespace Session

/-- The session before the first line. -/
def ofConfig (config : Config) : Session :=
  ⟨config.titles.map .new, config.footers, config.presentation, .empty⟩

/-- The footer that a message of the side gets when no other footer follows it: the side's default
footer, if it is not empty and default footers are attached at all. -/
def defaultFooter? (session : Session) (side : Side) : Option String :=
  let content := session.footers.get side
  if session.presentation.footerMode = .all ∧ content ≠ "" then some content else none

/-- Bind a new title to a side. -/
def retitle (session : Session) (side : Side) (title : String) (enforcedId : Option String) :
    Session :=
  { session with
    participants := session.participants.modify side (·.retitle title enforcedId) }

/-- Whether a message of the side shows the title of the side under a mode. -/
def showsTitle (session : Session) (side : Side) (mode : TitleMode) : Bool :=
  (session.participants.get side).showsTitle mode

/-- The session after a message of the side was drawn under a mode. -/
def afterMessage (session : Session) (side : Side) (mode : TitleMode) : Session :=
  { session with participants := session.participants.modify side (·.afterMessage mode) }

/-- Register a title. -/
def register (session : Session) (title : String) : Session :=
  { session with registry := session.registry.register title }

end Session
end Colloquy
