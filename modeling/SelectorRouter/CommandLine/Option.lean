/-!
# Options of the command line

The options with their spellings, whether they take a value, and how error messages name
them. An option may be shortened to any beginning that fits no other option, and short
options without values may be joined. The help text is not part of this library: the
option that asks for it only ends the run.
-/

namespace SelectorRouter.CommandLine

inductive Flag where
  | help
  | version
  | name
  | template
  | receive
  | diamond
  | coverage
  | config
  | output
  | warnings
  | limit
  | verbose
  | debug
  deriving Repr, DecidableEq

namespace Flag

/-- Every spelling, in the order in which messages list them. -/
def spellings : List (String × Flag) :=
  [("-h", .help), ("--help", .help), ("--version", .version), ("--name", .name),
    ("--template", .template), ("--receive", .receive), ("--diamond-compat", .diamond),
    ("--exclude-coverage-functions", .coverage), ("--config", .config), ("-o", .output),
    ("-W", .warnings), ("--traceback-limit", .limit), ("-v", .verbose),
    ("--verbose", .verbose), ("--debug", .debug)]

def takesValue : Flag → Bool
  | .name | .template | .config | .output | .warnings | .limit => true
  | _ => false

/-- All spellings of an option, as error messages name it. -/
def label (f : Flag) : String :=
  "/".intercalate ((spellings.filter fun s => s.2 = f).map (·.1))

end Flag

end SelectorRouter.CommandLine
