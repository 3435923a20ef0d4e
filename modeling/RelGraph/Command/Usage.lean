import RelGraph.Command.Invocation

/-! What is shown when a command line is not run: the usage, the version, or why it is refused. -/

namespace RelGraph.Command

/-- How the program is called. -/
def usage : List String :=
  ["Relation matching and node filtering for dependency graphs",
    "",
    "Usage: depview [OPTIONS] <COMMAND>",
    "",
    "Commands:",
    "  check [--list]                                    Validate the configuration",
    "  select <MODEL> [--best] [--json]                  List the documents of a model",
    "  filter <PIPELINE> -g <FILE> [--parallel]          Run a pipeline over a graph",
    "         [--explain] [--json]",
    "  reach <ROOT>... -m <MATCHER> -g <FILE> [--edges]  List what can be reached",
    "        [--json]",
    "  help [COMMAND]                                    Show this help",
    "",
    "Options:",
    "  -v, --verbose        Log at debug level",
    "  -q, --quiet          Drop status messages",
    "      --no-color       Do not use colors",
    "  -c, --config <FILE>  Use this file instead of ./depview.toml",
    "  -h, --help           Show this help",
    "  -V, --version        Show the version"]

def versionText : String := "depview 0.4.1"

/-- Why a command line is not run, in words. -/
def Refusal.message : Refusal → String
  | conflict => "error: an argument cannot be used together with another one or twice"
  | unknownArgument => "error: unexpected argument found"
  | unknownSubcommand => "error: unrecognized subcommand"
  | missingArgument => "error: a required argument was not provided"
  | missingSubcommand => "error: a subcommand is required but one was not provided"
  | invalidValue => "error: a value is required for an option but none was supplied"
  | surplusValue => "error: unexpected value for a flag"
  | nothingGiven | help | version => ""

/-- The lines for the standard output and for the standard error. -/
def Refusal.lines : Refusal → List String × List String
  | help => (usage, [])
  | version => ([versionText], [])
  | nothingGiven => ([], usage)
  | refusal => ([], [refusal.message, "", "For more information, try '--help'."])

end RelGraph.Command
