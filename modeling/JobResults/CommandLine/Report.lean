import JobResults.CommandLine.Arguments
import JobResults.Config.Load
import JobResults.Text.Quoted

/-!
  # Reports of failures

  A failure is reported in one line that shows how it is made: its name and, in brackets or
  braces, its parts.
-/

namespace JobResults.CommandLine

def withPart (name part : String) : String := name ++ "(" ++ part ++ ")"

def withFields (name : String) (fields : List (String × String)) : String :=
  name ++ " \x7b " ++ String.intercalate ", " (fields.map fun f => f.1 ++ ": " ++ f.2) ++ " \x7d"

/-- A number of nanoseconds below a millisecond. -/
def shortDuration (nanos : Nat) : String :=
  if nanos < 1000 then toString nanos ++ "ns"
  else
    let fraction := (toString (1000 + nanos % 1000)).toList.drop 1
    let fraction := (fraction.reverse.dropWhile (· == '0')).reverse
    let point := if fraction.isEmpty then [] else ['.']
    toString (nanos / 1000) ++ String.ofList (point ++ fraction) ++ "µs"

/-- The report of settings that make no sense. -/
def ofInvalid : Config.Invalid → String
  | .noAddress => "MissingRedisAddress"
  | .manyAddresses count => withFields "MultipleRedisAddresses" [("count", toString count)]
  | .negativeDatabase index => withPart "InvalidDatabase" (Text.decimal index.toInt)
  | .noPath => "MissingFjallPath"
  | .zeroTimeout timeout => withFields "InvalidTimeout" [("field", Text.quote timeout.name)]
  | .shortPeriod actual =>
    withFields "PipePeriodTooShort" [("actual", withPart "HumanDuration" (shortDuration actual.nanos))]

/-- The report of settings that cannot be loaded. -/
def ofLoadError : Config.LoadError → String
  | .malformedFile => withPart "LoadError" "FileParse"
  | .fault f => withPart "LoadError" (Text.quote f.message)
  | .invalid reason => withPart "ValidationError" (ofInvalid reason)

def ofObstacle : Obstacle → String
  | .file =>
    withFields "Os" [("code", "17"), ("kind", "AlreadyExists"), ("message", Text.quote "File exists")]
  | .fileOnTheWay =>
    withFields "Os" [("code", "20"), ("kind", "NotADirectory"), ("message", Text.quote "Not a directory")]

def ofStoreError : StoreError → String
  | .remote => withPart "Redis" "refused"
  | .badAddress => withPart "Redis" "Redis URL did not parse- InvalidClientConfig"
  | .inputOutput obstacle => withPart "Io" (ofObstacle obstacle)
  | .engine => withPart "Fjall" (withPart "Io" (ofObstacle .fileOnTheWay))
  | .corrupt key what =>
    withFields "Corrupt" [("key", Text.quote key), ("reason", Text.quote what.reason)]
  | .unavailable why => withPart "Unavailable" (Text.quote why)
  | .closed => "Closed"

def ofResultError : ResultError → String
  | .notFound id => withPart "NotFound" (Text.quote id)
  | .store e => withPart "Store" (ofStoreError e)

/-! ### Help -/

def CommandName.about : CommandName → String
  | get => "Print the stored result of a job"
  | list => "List job ids by outcome, most recent first"
  | delete => "Delete a job's result and outcome entries"
  | purge => "Remove outcome entries older than the given age"
  | run => "Run the background flusher and purger until interrupted"

def aboutHelp : String := "Print this message or the help of the given subcommand(s)"

/-- The arguments of a command in its usage line. -/
def CommandName.usage : CommandName → String
  | get => "get [OPTIONS] <ID>"
  | list => "list [OPTIONS] <OUTCOME>"
  | delete => "delete [OPTIONS] <ID>"
  | purge => "purge [OPTIONS] --older-than <OLDER_THAN>"
  | run => "run [OPTIONS]"

abbrev HelpRow := String × String

/-- The arguments without a name of a command. -/
def CommandName.arguments : CommandName → List HelpRow
  | get => [(Slot.id.label, "")]
  | list => [(Slot.outcome.label, "success or failed")]
  | delete => [(Slot.id.label, "")]
  | purge => []
  | run => []

def CommandName.ownOptions : CommandName → List HelpRow
  | list => [("    --json", "Print a JSON array instead of one id per line")]
  | purge => [("    " ++ Slot.olderThan.label, "")]
  | _ => []

/-- The options of the program or a command, of which some are its own. -/
def allOptions (own : List HelpRow) : List HelpRow :=
  [("    " ++ Slot.config.label,
    "Configuration file (defaults to $RESULTBOX_CONFIG or config/resultbox.toml)")] ++ own ++
    [("-h, --help", "Print help")]

/-- A titled list in two columns, the first one as wide as its widest entry. -/
def helpTable (title : String) (rows : List HelpRow) : String :=
  let width := (rows.map fun r => r.1.length).foldl max 0
  let line (r : HelpRow) : String :=
    "  " ++ r.1 ++ String.ofList (List.replicate (width - r.1.length) ' ') ++ "  " ++ r.2 ++ "\n"
  title ++ ":\n" ++ String.join (rows.map line)

/-- A help text out of what it is about, the usage line and the lists. -/
def helpPage (about usage : String) (tables : List String) : String :=
  String.intercalate "\n" ([about ++ "\n", "Usage: resultbox " ++ usage ++ "\n"] ++ tables)

def helpText : Topic → String
  | .program =>
    helpPage "Job result store CLI" "[OPTIONS] <COMMAND>"
      [helpTable "Commands" (CommandName.all.map (fun c => (c.word, c.about)) ++
        [(Topic.helpWord, aboutHelp)]), helpTable "Options" (allOptions [])]
  | .command c =>
    let arguments := if c.arguments.isEmpty then [] else [helpTable "Arguments" c.arguments]
    helpPage c.about c.usage (arguments ++ [helpTable "Options" (allOptions c.ownOptions)])
  | .help =>
    helpPage aboutHelp "help [COMMAND]..."
      [helpTable "Arguments" [("[COMMAND]...", "Print help for the subcommand(s)")]]

def UsageError.message : UsageError → String
  | help _ => ""
  | invalidValue value argument reason =>
    "error: invalid value '" ++ value ++ "' for '" ++ argument ++ "': " ++ reason ++ "\n"
  | misuse => "error: the arguments do not name anything to do\n"

end JobResults.CommandLine
