import ShadowLint.Command.Line

/-!
# Help

A command line that leads to no run is answered by a text: the help or the version that
was asked for, or what is wrong and how the program is used.
-/

namespace ShadowLint.Command

/-- The name and the version of the program. -/
def versionText : String := "shade 0.1.0\n"

/-- How the program is used. -/
def usageText : String :=
  String.join [
    "Usage: shade [OPTIONS] <COMMAND>\n",
    "\n",
    "Commands:\n",
    "  check  Run shade on the given scope-graph files\n",
    "  rule   Explain a rule\n",
    "  help   Print this message\n",
    "\n",
    "Options of check:\n",
    "      --config <CONFIG>         Path to a `shade.toml` configuration file\n",
    "      --isolated                Ignore all configuration files\n",
    "      --output-format <FORMAT>  Output serialization format: text or json\n",
    "  -e, --exit-zero               Exit with status code \"0\" also with violations\n",
    "      --show-settings           See the settings shade will use to lint\n",
    "\n",
    "Log levels:\n",
    "  -v, --verbose  Enable verbose logging\n",
    "  -q, --quiet    Print diagnostics, but nothing else\n",
    "  -s, --silent   Disable all logging\n",
    "\n",
    "Options:\n",
    "  -h, --help     Print help\n",
    "  -V, --version  Print version\n"]

/-- The help of the program. -/
def helpText : String :=
  "Shade: a linter for variables that shadow an enclosing scope.\n\n" ++ usageText

/-- What is wrong with a command line, if anything is. -/
def Usage.complaint? : Usage → Option String
  | .unknownArgument => some "unexpected argument"
  | .invalidSubcommand => some "unrecognized subcommand"
  | .missingSubcommand => some "a subcommand is required but was not given"
  | .missingRequiredArgument => some "a required argument was not given"
  | .argumentConflict => some "arguments cannot be used together or more than once"
  | .invalidValue => some "an option needs another value"
  | .tooManyValues => some "a value was given to an argument that takes none"
  | .valueValidation => some "Matching variant not found"
  | .displayHelp => none
  | .displayVersion => none
  | .displayHelpOnMissing => none

/-- The answer to a command line that leads to no run. -/
def Usage.text : Usage → String
  | .displayVersion => versionText
  | usage =>
      match usage.complaint? with
      | some complaint => "error: " ++ complaint ++ "\n\n" ++ usageText
      | none => helpText

end ShadowLint.Command
