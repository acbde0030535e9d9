import Worklog.Command.Basic
import Worklog.Console.Page

/-!
# Help

The help on the program or on one of its commands says how it is called, what it is for, which
options it takes, and which commands there are.
-/

namespace Worklog.Help

/-- The word for what an option takes. -/
def valueWord : OptionValue → Option String
  | .nothing => none
  | .text => some "TEXT"
  | .file => some "FILE"
  | .whole => some "INTEGER"

/-- The names of an option, short before long, and what it takes. -/
def usage (r : OptionRule) : Text :=
  Text.joinWith ", ".toList r.names.reverse ++
    match valueWord r.takes with
    | some w => ' ' :: w.toList
    | none => []

/-- Two columns, the second of which starts in the same place in all lines. -/
def twoColumns (rows : List (Text × String)) : List Text :=
  let width := (rows.map (·.1.length)).foldl max 0
  rows.map fun r => "  ".toList ++ r.1 ++ Text.spaces (width - r.1.length + 2) ++ r.2.toList

/-- A heading and its lines. -/
def part (heading : String) (lines : List Text) : List Text := [] :: heading.toList :: lines

/-- The lines on options. -/
def optionLines (rules : List OptionRule) : List Text :=
  part "Options:" (twoColumns (rules.map fun r => (usage r, r.purpose)))

/-- The lines that say how something is called and what it is for. -/
def opening (call purpose : Text) : List Text :=
  ["Usage: ".toList ++ call, [], "  ".toList ++ purpose]

/-- How the argument of a command is written. -/
def argumentWord (rule : ArgumentRule) : Text :=
  if rule.required then ' ' :: rule.name.toList else " [".toList ++ rule.name.toList ++ [']']

/-- **Help on a command** of a program that is called by a name. -/
def ofCommand (called : Text) (c : Command) : Page :=
  let call := called ++ ' ' :: c.name.toList ++ " [OPTIONS]".toList ++
    (c.argument?.map argumentWord).getD []
  (opening call c.purpose.toList ++ optionLines c.options).map .verbatim

/-- **Help on a program** that is called by a name. -/
def ofProgram (program called : Text) : Page :=
  let purpose := program ++ " - search your tracked time.".toList
  let commands := Command.all.map fun c => (c.name.toList, c.purpose)
  (opening (called ++ " [OPTIONS] COMMAND [ARGS]...".toList) purpose ++
    optionLines Command.commonOptions ++ part "Commands:" (twoColumns commands)).map .verbatim

end Worklog.Help
