import Colloquy.Command.Arguments

/-!
# Usage

The texts that tell how the program is called.
-/

namespace Colloquy.Command

/-- The name of the program. -/
def programName : String := "dialogue"

/-- The version of the program. -/
def version : String := "0.1.0"

/-- The help on the program as a whole. -/
def overview : String :=
  "Dialogue block renderer

Usage: dialogue [OPTIONS] <COMMAND>

Commands:
  render  Render a dialogue block file
  check   Render into a scratch tree and report warnings (exit 1 if any)
  test    Run .test.md fixture files
  help    Print this message or the help of the given subcommand(s)

Options:
      --no-color  Disable colored diagnostics
  -h, --help      Print help
  -V, --version   Print version
"

/-- The help on a command. -/
def Verb.usage : Verb → String
  | .render =>
    "Render a dialogue block file

Usage: dialogue render [OPTIONS] <FILE>

Arguments:
  <FILE>  Dialogue block source file

Options:
  -c, --config <CONFIG>  TOML file with default settings
      --no-color         Disable colored diagnostics
  -f, --format <FORMAT>  Output format [default: html] [possible values: html, outline]
  -q, --quiet            Don't print warnings
  -h, --help             Print help
"
  | .check =>
    "Render into a scratch tree and report warnings (exit 1 if any)

Usage: dialogue check [OPTIONS] <FILE>

Arguments:
  <FILE>  Dialogue block source file

Options:
  -c, --config <CONFIG>  TOML file with default settings
      --no-color         Disable colored diagnostics
  -h, --help             Print help
"
  | .test =>
    "Run .test.md fixture files

Usage: dialogue test [OPTIONS] <PATH>

Arguments:
  <PATH>  Path to a .test.md file or directory containing them

Options:
  -c, --category <CATEGORY>  Run only tests in these categories (subfolder names). Repeatable
      --no-color             Disable colored diagnostics
      --list-categories      List available categories and exit
  -h, --help                 Print help
"
  | .help =>
    "Print this message or the help of the given subcommand(s)

Usage: dialogue help [COMMAND]...

Arguments:
  [COMMAND]...  Print help for the subcommand(s)
"

/-- What is said on a command line that cannot be read. -/
def misuseMessage : String := "error: invalid arguments\n\nFor more information, try '--help'.\n"

end Colloquy.Command
