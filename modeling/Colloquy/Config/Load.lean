import Colloquy.Config.Read
import Colloquy.Files.Directory

/-!
# Configuration files

A configuration file is read as a whole before anything in it counts; a file that cannot be read
and a file that holds no configuration are different errors, and both name the file.
-/

namespace Colloquy.Config

/-- Why a file gives no configuration. -/
inductive LoadError where
  | read (path : String) (cause : FileError)
  | parse (path : String) (cause : Error)

namespace LoadError

/-- The text in which the error is reported. -/
def message : LoadError → String
  | .read path cause => "Failed to read config file at " ++ path ++ ": " ++ cause.message
  | .parse path cause => "Failed to parse config file at " ++ path ++ ": " ++ cause.message

end LoadError

/-- The configuration in the file of a path. -/
def load (path : String) : FileContent → Except LoadError Config
  | .error cause => .error (.read path cause)
  | .ok text => (parse text).mapError (.parse path)

end Colloquy.Config
