import Colloquy.Presentation
import Colloquy.Side

/-!
# Configurations

A configuration holds what every dialogue block starts from: a title and a footer for each side,
and the values of all settings. The lines of a block override it for the rest of that block only.
-/

namespace Colloquy

/-- The defaults that a block starts from. -/
structure Config where
  titles : PerSide String
  footers : PerSide String
  presentation : Presentation
  deriving DecidableEq, Repr

namespace Config

/-- No titles, no footers, and every setting at its default. -/
def default : Config := ⟨⟨"", "", ""⟩, ⟨"", "", ""⟩, .default⟩

end Config
end Colloquy
