import Worklog.Console.Page
import Worklog.Query.Outline
import Worklog.Query.Verdict
import Worklog.Results
import Worklog.Session.Suggest

/-!
# Pages of the commands

What the commands show: the results of a search kind by kind, the rows of a query, the verdict on
it, suggestions, and the size of the index.
-/

namespace Worklog.Page

/-- A note of a few fixed words. -/
def words (s : String) : Page := [.note s.toList]

/-! ## 1. Results -/

/-- A length in hours and minutes, or in minutes where there are no hours. -/
def lengthText (p : Precision) (seconds : Rat) : Text :=
  let minutes := Amount.minutesOf p seconds
  let hours := minutes.fdiv 60
  let rest := minutes.fmod 60
  if hours = 0 then Text.ofInt rest ++ ['m']
  else Text.ofInt hours ++ 'h' :: Text.ofNatPadded 2 rest.toNat ++ ['m']

/-- A title with a number. -/
def countTitle (title : String) (n : Nat) : Text :=
  title.toList ++ " (".toList ++ Text.ofNat n ++ [')']

/-- A value in a grid: null leaves its cell empty, and all else has to be a text. -/
def cell : Json → Except Fault Text
  | .str t => .ok t
  | .null => .ok []
  | v => .error (.notShown v.kindName)

/-- A value in a grid; what counts as not given leaves its cell empty. -/
def optionalCell (v : Json) : Except Fault Text := if v.truthy then cell v else .ok []

/-- A score with one decimal place. -/
def scoreText {α : Type} (s : Scored α) : Text := Figure.fixed 1 s.score

/-- A grid of the first items of a list, row by row, unless there are none. The last column is that
    of the scores. -/
def table {α : Type} (title : String) (headings : List (String × Side)) (limit : Int)
    (items : List (Scored α)) (row : α → Except Fault (List Text)) : Page :=
  if items.isEmpty then []
  else
    let rows := (front limit items).mapM fun s => do return (← row s.item) ++ [scoreText s]
    match rows with
    | .ok rows =>
      [.grid (.ofRows (countTitle title items.length) (headings ++ [("Score", .right)]) rows)]
    | .error f => [.unshown f]

/-- The table of activities. -/
def activityTable (p : Precision) (now : Moment) (limit : Int) (items : List (Scored Activity)) :
    Page :=
  let headings := [("App", .left), ("Window", .left), ("Start", .left), ("Duration", .right)]
  table "Activities" headings limit items fun a => do
    let start ← a.begin
    let length := lengthText p (← a.seconds p now)
    return [← cell a.appName, ← optionalCell a.windowTitle, start.minuteText, length]

/-- The table of time entries. -/
def timeEntryTable (p : Precision) (limit : Int) (items : List (Scored TimeEntry)) : Page :=
  let headings := [("Title", .left), ("Start", .left), ("Duration", .right)]
  table "Time entries" headings limit items fun e => do
    return [← cell e.title, e.start.minuteText, lengthText p (e.seconds p)]

/-- The table of projects. -/
def projectTable (limit : Int) (items : List (Scored Project)) : Page :=
  table "Projects" [("Name", .left)] limit items fun r => do return [← cell r.name]

/-- The name of something, or a word for nothing. -/
def nameOrNone : Option String → Text
  | some s => s.toList
  | none => "None".toList

/-- The line under the results. -/
def footer (r : Results) : Block :=
  .note ("[dim]".toList ++ Text.ofNat r.total ++ " results, path=".toList ++
    nameOrNone (r.path.map (·.name)) ++ ", complexity=".toList ++
    nameOrNone (r.complexity.map (·.name)) ++ "[/dim]".toList)

/-- **The page of results**, with at most `limit` records of a kind. -/
def ofResults (p : Precision) (now : Moment) (limit : Int) (r : Results) : Page :=
  match r.failure with
  | some reason => [.note ("[red]Search failed:[/red] ".toList ++ reason)]
  | none =>
    if r.isEmpty then words "[yellow]No results found[/yellow]"
    else
      activityTable p now limit r.activities ++ timeEntryTable p limit r.timeEntries ++
        projectTable limit r.projects ++ [footer r]

/-! ## 2. Queries -/

/-- The page of a query. -/
def ofQuery (q : Query) : Page :=
  if q.outline.isEmpty then words "[yellow]Nothing to parse[/yellow]"
  else
    let rows := q.outline.map fun r => [r.1, r.2]
    [.grid (.ofRows "Parsed query".toList [("Kind", .left), ("Value", .left)] rows)]

/-- The page of a verdict. -/
def ofVerdict : Option Query.Refusal → Page
  | none => words "[green]✓[/green] Valid query"
  | some refusal => [.note ("[red]✗[/red] ".toList ++ refusal.message)]

/-! ## 3. Suggestions and sizes -/

/-- The line of a suggestion. -/
def suggestionLine (s : Suggestion) : Block :=
  .note ("  • ".toList ++ s.text ++ " [dim](".toList ++ s.kind.name.toList ++ ")[/dim]".toList)

/-- The page of suggestions. -/
def ofSuggestions (ss : List Suggestion) : Page :=
  if ss.isEmpty then words "[yellow]No suggestions[/yellow]" else ss.map suggestionLine

/-- The figures of an index. -/
def figures (size : IndexSize) : List (String × Nat) :=
  [("Activities", size.activities), ("Time entries", size.timeEntries),
    ("Projects", size.projects), ("Terms", size.terms)]

/-- The page of an index and the terms that are common in it. -/
def ofIndex (size : IndexSize) (common : List Text) : Page :=
  let rows := (figures size).map fun r => [r.1.toList, Text.ofNat r.2]
  .grid (.ofRows "Index statistics".toList [("Metric", .left), ("Value", .right)] rows) ::
  if common.isEmpty then []
  else [.note ("[bold]Common terms:[/bold] ".toList ++ Text.joinWith ", ".toList common)]

end Worklog.Page
