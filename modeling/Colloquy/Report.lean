/-!
# Reports

What a run of the program leaves: an exit code and the texts of its two streams.
-/

namespace Colloquy

/-- The outcome of a run. -/
structure Report where
  exit : Nat
  output : String
  messages : String
  deriving DecidableEq, Repr

namespace Report

/-- A run that ends well, with something on the first stream. -/
def success (output : String) (messages : String) : Report := ⟨0, output, messages⟩

/-- A run that fails, with something to say about it. -/
def failure (messages : String) : Report := ⟨1, "", messages⟩

end Report

/-- A line of a report. -/
def reportLine (text : String) : String := text ++ "\n"

/-- How a part of a report is set off, where the terminal can show it. -/
inductive Emphasis where
  | heading
  | good
  | bad
  deriving DecidableEq, Repr

namespace Emphasis

/-- The number by which a terminal knows the emphasis. -/
def code : Emphasis → String
  | .heading => "1"
  | .good => "32"
  | .bad => "31"

/-- A text between the sequences that turn the emphasis on and off. -/
def paint (emphasis : Emphasis) (color : Bool) (text : String) : String :=
  if color then "\x1b[" ++ emphasis.code ++ "m" ++ text ++ "\x1b[0m" else text

end Emphasis
end Colloquy
