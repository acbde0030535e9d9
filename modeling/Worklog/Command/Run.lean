import Worklog.Command.Help
import Worklog.Command.Pages
import Worklog.Json.Printer
import Worklog.Session.Upkeep
import Worklog.Settings.File

/-!
# Running a command line

A command line runs in a place (`Host`): home directories, a time, and files, which are looked at
in any monad. It comes to an `Outcome`: how it ended, the lines that it printed, and the state file
that it leaves behind.

What is wrong is found in this order: the options in front of the command, the command itself, the
settings, the options of the command as they are given, its arguments, and then what the command
does. Whoever asks for help gets it before the values of options are looked at.
-/

namespace Worklog

/-- What stands under a path. -/
inductive Entry where
  | absent
  /-- Nothing, and nothing can be put there: a part of the path is a file. -/
  | beneath
  | directory
  | file (text : Text)

/-- The place in which a command runs. -/
structure Host (m : Type → Type) where
  /-- The name of the program, which is also the name of its settings file. -/
  program : Text
  /-- The word by which the program is called. -/
  called : Text
  homes : Homes
  now : Moment
  look : Text → m Entry

/-- How a command line ends. -/
inductive Ending where
  | done
  /-- The answer was not what was hoped for. -/
  | failed
  | misused (reason : Misuse)
  | stopped (cause : Fault)

/-- The exit status that says how a command line ended. -/
def Ending.status : Ending → Nat
  | .done => 0
  | .failed => 1
  | .misused _ => 2
  | .stopped _ => 1

/-- What a command shows, whether it succeeded, and the state file that it leaves behind. -/
structure Performance where
  page : Page
  succeeded : Bool := true
  written : Option (Text × Text) := none

/-- What a command line comes to. -/
structure Outcome where
  ending : Ending
  lines : List Text
  written : Option (Text × Text)

/-- The outcome of a performance: a page that cannot be shown to its end stops it. -/
def Performance.outcome (r : Performance) : Outcome :=
  match r.page.shown with
  | (lines, some f) => ⟨.stopped f, lines, r.written⟩
  | (lines, none) => ⟨if r.succeeded then .done else .failed, lines, r.written⟩

namespace Host

variable {m : Type → Type} [Monad m] (p : Precision) (h : Host m)

/-- What is done in a place, unless it ends before. -/
abbrev Work (m : Type → Type) (α : Type) := ExceptT Ending m α

/-- Work that may turn out to be misuse. -/
def misusing {α : Type} : Except Misuse α → Work m α
  | .ok a => pure a
  | .error reason => throw (.misused reason)

/-- Work that may be stopped. -/
def stopping {α : Type} : Except Fault α → Work m α
  | .ok a => pure a
  | .error f => throw (.stopped f)

/-! ## 1. Options -/

/-- A complaint about the value of an option. -/
def badValue {α : Type} (g : GivenOption) (words : Text) : Work m α :=
  throw (.misused (.badValue g.rule.hint words))

/-- Checks the value of an option. -/
def checkOption (g : GivenOption) : Work m Unit := do
  match g.rule.takes with
  | .nothing => pure ()
  | .text => pure ()
  | .file =>
    let file := "File ".toList ++ Text.quoted g.value
    match ← h.look g.value with
    | .absent => badValue g (file ++ " does not exist.".toList)
    | .beneath => badValue g (file ++ " does not exist.".toList)
    | .directory => badValue g (file ++ " is a directory.".toList)
    | .file _ => pure ()
  | .whole =>
    match Numeral.whole 10 g.value with
    | .ok _ => pure ()
    | .error _ => badValue g (Text.quoted g.value ++ " is not a valid integer.".toList)

/-- Checks the values of options, in the order in which they are given. -/
def checkOptions (given : List GivenOption) : Work m Unit :=
  (Options.distinct given).forM h.checkOption

/-- The day that an option names. -/
def dayOption (long : String) (given : List GivenOption) : Work m (Option Moment) := do
  match Options.value? long given with
  | none => return none
  | some t =>
    match ← stopping (Day.read h.now t) with
    | some day => return some day
    | none => throw (.misused (.badValue long.toList ("Unrecognized date: ".toList ++ t)))

/-- The length that an option names, in seconds, or null. -/
def lengthOption (long : String) (given : List GivenOption) : Work m Json := do
  match Options.value? long given with
  | none => return .null
  | some t =>
    match Duration.parse p t with
    | some seconds => return .real (.finite seconds)
    | none => throw (.misused (.badValue long.toList ("Unrecognized duration: ".toList ++ t)))

/-- The panel that the options of a search set. -/
def panelOf (given : List GivenOption) : Work m Panel := do
  let start ← h.dayOption "--after" given
  let finish ← h.dayOption "--before" given
  let minSeconds ← lengthOption p "--min-duration" given
  let maxSeconds ← lengthOption p "--max-duration" given
  return { start, finish, minSeconds, maxSeconds,
           projects := (Text.sortedSet (Options.values "--project" given)).map .str,
           apps := (Text.sortedSet (Options.values "--app" given)).map .str,
           excludeIdle := Options.has "--exclude-idle" given }

/-- The most records of a kind that are shown, unless an option sets it. -/
def defaultLimit : Int := 10

/-- The most records of a kind that are shown. -/
def limitOf (given : List GivenOption) : Int :=
  ((Options.value? "--limit" given).bind fun t => (Numeral.whole 10 t).toOption).getD defaultLimit

/-! ## 2. Files -/

/-- The text of a settings file, if there is something under a path. -/
def fetch (path : Text) : m (Option (Except Fault Text)) := do
  match ← h.look path with
  | .file t => return some (.ok t)
  | .directory => return some (.error (.badPath .directory path))
  | _ => return none

/-- The settings, from the file that an option names or from the usual places. -/
def settings (given : List GivenOption) : Work m Settings := do
  let file := Options.value? "--config" given
  stopping (← (Settings.loadOrDefault h.fetch h.program h.homes file : m _))

/-- The path of the file with records. -/
def dataPath (settings : Settings) (given : List GivenOption) : Work m Text :=
  match (Options.value? "--data" given).orElse fun _ => settings.dataPath with
  | some path => pure path
  | none => throw (.misused .missingRecords)

/-- The records of a file, which has to be there. -/
def records (path : Text) : Work m Store := do
  match ← h.look path with
  | .file t => stopping ((Json.read t).bind Store.read)
  | .absent => throw (.stopped (.badPath .absent path))
  | .beneath => throw (.stopped (.badPath .file path))
  | .directory => throw (.stopped (.badPath .directory path))

/-- What stands in the way of a state file below another file: the directory in which it should be
    is that file, or is itself below it. -/
def obstructed (path : Text) : m StateFile := do
  let directory := Path.parent path
  match ← h.look directory with
  | .file _ => return .blocked (.badPath .occupied directory)
  | _ => return .blocked (.badPath .file directory)

/-- The state file that the settings name. -/
def stateFile (settings : Settings) : m StateFile := do
  match settings.statePath with
  | none => return .unused
  | some path =>
    match ← h.look path with
    | .file t => return .ofText t
    | .absent => return .missing
    | .beneath => h.obstructed path
    | .directory => return .unreadable (.badPath .directory path)

/-- A session over the records of a file, with its index built, and what surrounds it. -/
def openSession (settings : Settings) (path : Text) : Work m (Session × Surroundings) := do
  let store ← h.records path
  let session ← stopping (Session.start settings (← h.stateFile settings) h.now)
  let around : Surroundings := ⟨store, h.now, .ofNat 0, .whole 0⟩
  let reply := session.rebuild around
  let _ ← stopping reply.answer
  return (reply.session, around)

/-! ## 3. Commands -/

/-- The state file that a search leaves behind: every query that was answered enters it. -/
def writtenBy (settings : Settings) (query : Text) (r : Results) (after : Session) :
    Option (Text × Text) :=
  match settings.statePath, after.history.file with
  | some path, .document v =>
    if r.failure.isNone && !Text.isBlankText query then some (path, v.pretty) else none
  | _, _ => none

/-- **Searches**, and shows the results or prints their document. -/
def search (settings : Settings) (given : List GivenOption) (query : Text) :
    Work m Performance := do
  let path ← dataPath settings given
  let panel ← h.panelOf p given
  let (session, around) ← h.openSession settings path
  let reply := { session with panel }.searchNow p around (.str query)
  let results := (← stopping reply.answer).getD .empty
  let written := writtenBy settings query results reply.session
  if Options.has "--json" given then
    return { page := [.verbatim (results.toJson p).pretty], written }
  return { page := .ofResults p h.now (limitOf given) results,
           succeeded := results.failure.isNone, written }

/-- **Does what a command says.** -/
def perform (settings : Settings) (given : List GivenOption) (argument : Text) :
    Command → Work m Performance
  | .search => h.search p settings given argument
  | .parse => do return { page := .ofQuery (← stopping (Query.read p h.now argument)) }
  | .validate => do
    let verdict ← stopping (Query.verdict p h.now argument)
    return { page := .ofVerdict verdict, succeeded := verdict.isNone }
  | .suggest => do
    let (session, _) ← h.openSession settings (← dataPath settings given)
    return { page := .ofSuggestions (← stopping (session.suggest (.str argument))) }
  | .stats => do
    let (session, _) ← h.openSession settings (← dataPath settings given)
    return { page := .ofIndex session.desk.index.size session.commonTerms }

/-! ## 4. Command lines -/

/-- The options in front of the command and the words behind them; asking for help ends here. -/
def leading (words : List Text) : Work m (List GivenOption × List Text) := do
  let (given, rest) ← misusing (Options.read Command.commonOptions false words)
  if !Options.has "--help" given then h.checkOptions given
  return (given, rest)

/-- Help on the program. -/
def help : Performance := { page := Help.ofProgram h.program h.called }

/-- What becomes of a word that names no command: it may still ask for help, or be a wrong
    option. -/
def withoutCommand (word : Text) (rest : List Text) : Work m Performance := do
  let (given, _) ← h.leading (word :: rest)
  if Options.has "--help" given then return h.help
  throw (.misused (.unknownCommand word (Text.closest word (Command.all.map (·.name.toList)))))

/-- Runs a command with the words behind it. -/
def runCommand (common : List GivenOption) (c : Command) (words : List Text) :
    Work m Performance := do
  let settings ← h.settings common
  let (given, arguments) ← misusing (Options.read c.options true words)
  if Options.has "--help" given then return { page := Help.ofCommand h.called c }
  h.checkOptions given
  h.perform p settings given (← misusing (c.argument arguments)) c

/-- What the words of a command line come to, unless they end before. -/
def work (words : List Text) : Work m Performance := do
  if words.isEmpty then throw (.misused .nothingAsked)
  let (common, rest) ← h.leading words
  if Options.has "--help" common then return h.help
  match rest with
  | [] => throw (.misused .missingCommand)
  | word :: rest =>
    match Command.ofName? word with
    | some c => h.runCommand p common c rest
    | none => h.withoutCommand word rest

/-- **Runs a command line.** -/
def run (words : List Text) : m Outcome := do
  match ← (h.work p words).run with
  | .ok r => return r.outcome
  | .error ending => return ⟨ending, [], none⟩

end Host

end Worklog
