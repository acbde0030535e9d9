import Worklog.Text.Quoted

/-!
# Misuse

A command line can be wrong in itself, before anything is done. `Misuse` lists the ways in which it
can, and `Misuse.message` puts them into words. Who calls the program with nothing at all is shown
the help instead of words of complaint.
-/

namespace Worklog

/-- What is wrong with a command line. -/
inductive Misuse where
  /-- Nothing was asked for. -/
  | nothingAsked
  | missingCommand
  /-- A word that names no command, and the commands it may have meant. -/
  | unknownCommand (word : Text) (close : List Text)
  /-- A word that names no option, and the options it may have meant. -/
  | unknownOption (word : Text) (close : List Text)
  | missingValue (option : Text)
  | unwantedValue (option : Text)
  /-- A value that an option does not take. -/
  | badValue (option words : Text)
  | missingArgument (name : String)
  | extraArguments (arguments : List Text)
  /-- Records are needed, and no file with records is known. -/
  | missingRecords
  deriving DecidableEq, Repr

namespace Misuse

/-- A question whether something else was meant. -/
def guess : List Text → Text
  | [] => []
  | [one] => " Did you mean ".toList ++ Text.quoted one ++ ['?']
  | many =>
    " (Did you mean one of: ".toList ++ Text.joinWith ", ".toList (many.map Text.quoted) ++
      "?)".toList

/-- **The words for a misuse.** -/
def message : Misuse → Option Text
  | .nothingAsked => none
  | .missingCommand => some "Missing command.".toList
  | .unknownCommand word close =>
    some ("No such command ".toList ++ Text.quoted word ++ '.' :: guess close)
  | .unknownOption word close =>
    some ("No such option ".toList ++ Text.quoted word ++ '.' :: guess close)
  | .missingValue option =>
    some ("Option ".toList ++ Text.quoted option ++ " requires an argument.".toList)
  | .unwantedValue option =>
    some ("Option ".toList ++ Text.quoted option ++ " does not take a value.".toList)
  | .badValue option words => some ("Invalid value for ".toList ++ option ++ ": ".toList ++ words)
  | .missingArgument name => some ("Missing argument '".toList ++ name.toList ++ "'.".toList)
  | .extraArguments arguments =>
    some ("Got unexpected extra argument".toList ++
      (if arguments.length = 1 then [] else ['s']) ++ " (".toList ++
      Text.joinWith [' '] arguments ++ [')'])
  | .missingRecords =>
    some "No record snapshot given. Use --data or set data_path in the config.".toList

end Misuse

end Worklog
