import Worklog.Command.Options

/-!
# Commands

The commands of the program, the options and the argument that each of them takes, and the options
in front of them.
-/

namespace Worklog

/-- What the program can be asked to do. -/
inductive Command where
  | search
  | parse
  | validate
  | suggest
  | stats
  deriving DecidableEq, Repr

/-- The argument of a command. -/
structure ArgumentRule where
  name : String
  required : Bool
  deriving DecidableEq, Repr

namespace Command

/-- The commands in order of the alphabet. -/
def all : List Command := [.parse, .search, .stats, .suggest, .validate]

/-- The name of a command. -/
def name : Command → String
  | .search => "search"
  | .parse => "parse"
  | .validate => "validate"
  | .suggest => "suggest"
  | .stats => "stats"

/-- The command of a name. -/
def ofName? (t : Text) : Option Command := all.find? fun c => c.name.toList == t

/-- Every command has a name of its own. -/
theorem ofName?_name (c : Command) : ofName? c.name.toList = some c := by cases c <;> decide

/-- What a command is for. -/
def purpose : Command → String
  | .search => "Search activities, time entries and projects."
  | .parse => "Show how a query is parsed."
  | .validate => "Check query syntax."
  | .suggest => "Suggest completions for a partial query."
  | .stats => "Show index statistics and common terms."

/-! ## Options -/

/-- The option that asks for help. -/
def helpOption : OptionRule := ⟨"--help", none, .nothing, "Show this message and exit."⟩

/-- The option that names the file with records. -/
def dataOption : OptionRule := ⟨"--data", some 'd', .file, "Record snapshot (JSON)"⟩

/-- The options in front of the command. -/
def commonOptions : List OptionRule :=
  [⟨"--config", none, .file, "Config file"⟩,
    ⟨"--verbose", some 'v', .nothing, "Show debug logging"⟩, helpOption]

/-- The options of a search. -/
def searchOptions : List OptionRule :=
  [dataOption, ⟨"--app", some 'a', .text, "Only these app names"⟩,
    ⟨"--project", some 'p', .text, "Only these project ids"⟩,
    ⟨"--after", none, .text, "Start date (any query date format)"⟩,
    ⟨"--before", none, .text, "End date (any query date format)"⟩,
    ⟨"--min-duration", none, .text, "Minimum duration, e.g. 30m"⟩,
    ⟨"--max-duration", none, .text, "Maximum duration, e.g. 2h"⟩,
    ⟨"--exclude-idle", none, .nothing, "Skip idle activities"⟩,
    ⟨"--limit", some 'l', .whole, "Max results per kind"⟩,
    ⟨"--json", none, .nothing, "Print raw JSON"⟩, helpOption]

/-- The options of a command. -/
def options : Command → List OptionRule
  | .search => searchOptions
  | .parse => [helpOption]
  | .validate => [helpOption]
  | .suggest => [dataOption, helpOption]
  | .stats => [dataOption, helpOption]

/-- The argument of a command. -/
def argument? : Command → Option ArgumentRule
  | .search => some ⟨"QUERY", false⟩
  | .parse => some ⟨"QUERY", true⟩
  | .validate => some ⟨"QUERY", true⟩
  | .suggest => some ⟨"PARTIAL", true⟩
  | .stats => none

/-- Every command can be asked for help. -/
theorem helpOption_mem_options (c : Command) : helpOption ∈ c.options := by cases c <;> decide

/-! ## Arguments -/

/-- **The argument among those of a command line**, an empty one where none is required. -/
def argument (c : Command) (given : List Text) : Except Misuse Text :=
  match c.argument?, given with
  | none, [] => .ok []
  | none, extra => .error (.extraArguments extra)
  | some rule, [] => if rule.required then .error (.missingArgument rule.name) else .ok []
  | some _, [t] => .ok t
  | some _, _ :: extra => .error (.extraArguments extra)

end Command

end Worklog
