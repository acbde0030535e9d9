import Worklog.Text.Quoted

/-!
# What can go wrong

`Fault` lists the causes for which an operation of the library stops, and `Fault.message` is the
one place where they are put into words. Causes without words of their own answer `none`.
-/

namespace Worklog

/-- The part of a timestamp that is out of range. -/
inductive TimeField where
  | year (value : Nat)
  | month
  | day
  | hour
  | minute
  | second
  deriving DecidableEq, Repr

/-- One complaint about a setting: where it is, which rule is broken, and the rule's words if it
    has some. -/
structure Complaint where
  path : List String
  rule : String
  words : Option Text
  deriving DecidableEq, Repr

/-- The closed lists of words that a document chooses from. -/
inductive Vocabulary where
  | recordKind
  | operation
  | dayBound
  | lengthBound
  deriving DecidableEq, Repr

/-- The name of a list of words. -/
def Vocabulary.name : Vocabulary → String
  | .recordKind => "RecordKind"
  | .operation => "ChangeOperation"
  | .dayBound => "DateFilterKind"
  | .lengthBound => "DurationFilterKind"

/-- What stands under a path where something else should. -/
inductive Obstacle where
  /-- Nothing. -/
  | absent
  /-- A directory where a file should be. -/
  | directory
  /-- A file where a directory should be. -/
  | file
  /-- A file where a directory should be made. -/
  | occupied
  deriving DecidableEq, Repr

/-- The two kinds of values that hold others. -/
inductive Nesting where
  | list
  | object
  deriving DecidableEq, Repr

/-- A cause for which an operation stops. -/
inductive Fault where
  /-- A record, a saved search or a document lacks a key. -/
  | missingKey (key : Text)
  /-- A value has a type that an operation does not take. -/
  | wrongType
  /-- A value lacks what a text or an object offers. -/
  | wrongShape
  /-- A value of a kind is no text, and lacks what texts offer. -/
  | noText (kind : String)
  /-- A value of a kind cannot be a member of a set. -/
  | noMember (kind : String)
  /-- Values of two kinds that have no order. -/
  | unordered (symbol left right : String)
  /-- Values of two kinds that have no difference. -/
  | noDifference (left right : String)
  /-- A value of a kind cannot be shown. -/
  | notShown (kind : String)
  /-- A whole number that is too large to be one with a fraction. -/
  | tooLargeForFraction
  /-- A quotient of whole numbers that is too large. -/
  | quotientTooLarge
  /-- What is no number is not a whole number either. -/
  | notWhole
  /-- A document is not JSON. -/
  | malformedJson
  /-- A document whose lists or objects are nested too deeply; which of them is said of JSON. -/
  | tooDeep (nesting : Option Nesting)
  /-- A document with a whole number of too many digits. -/
  | tooManyDigits (count : Nat)
  /-- A text is no timestamp. -/
  | badTimestamp (text : Text)
  /-- A timestamp has a part that is out of range. -/
  | timeField (field : TimeField)
  /-- A timestamp's offset from UTC, in microseconds, is a day or more. -/
  | offsetTooLarge (micros : Int)
  /-- A date leaves the years 1 to 9999. -/
  | dateOverflow
  /-- A time entry does not end after it starts. -/
  | endsBeforeStart (id : Text)
  /-- A word that is not on its list. -/
  | unknownWord (vocabulary : Vocabulary) (word : Text)
  /-- A position past the end of a list. -/
  | noSuchPosition
  /-- The record store cannot be read. -/
  | storeUnavailable
  /-- The index could not be built, for the given reason. -/
  | unreadableRecords (reason : Text)
  /-- A query that cannot be saved. -/
  | invalidQuery (reason : Text)
  /-- A negative bound for a list. -/
  | negativeBound
  /-- A file that does not exist. -/
  | missingFile
  /-- A path under which something else stands. -/
  | badPath (obstacle : Obstacle) (path : Text)
  /-- Settings that break rules. -/
  | invalidSettings (complaints : List Complaint)
  /-- A settings file that cannot be read: characters that start no token. -/
  | unreadableToken
  /-- A settings file that cannot be read: tokens out of place. -/
  | misplacedToken
  /-- A settings file with a value that no rule of its format builds. -/
  | unbuildableValue
  /-- A text that is no whole number of a base. -/
  | noNumeral (base : Nat) (text : Text)
  /-- A whole number without any character. -/
  | emptyNumeral
  /-- A text that is no number. -/
  | noNumber (text : Text)
  /-- The number of no character. -/
  | noSuchCharacter
  /-- A settings file with several documents, or with a reference to nothing. -/
  | looseReference
  /-- A settings file with a character that its format does not admit. -/
  | forbiddenCharacter
  /-- A path that starts at the home of an unknown user. -/
  | unknownHome
  /-- Marked-up text that closes, at a position, a tag that is not open. -/
  | tagNotOpen (tag : Text) (position : Nat)
  /-- Marked-up text that closes, at a position, the latest tag where none is open. -/
  | nothingToClose (position : Nat)
  /-- Marked-up text with a handler whose parameters cannot be read. -/
  | badHandler (parameters handler reason : Text)
  deriving DecidableEq, Repr

namespace TimeField

/-- The rule that a part of a timestamp breaks. -/
def message : TimeField → Text
  | .year n => "year ".toList ++ Text.ofNat n ++ " is out of range".toList
  | .month => "month must be in 1..12".toList
  | .day => "day is out of range for month".toList
  | .hour => "hour must be in 0..23".toList
  | .minute => "minute must be in 0..59".toList
  | .second => "second must be in 0..59".toList

end TimeField

namespace Obstacle

/-- The number of an obstacle and the words for it. -/
def message : Obstacle → String
  | .absent => "[Errno 2] No such file or directory: "
  | .directory => "[Errno 21] Is a directory: "
  | .file => "[Errno 20] Not a directory: "
  | .occupied => "[Errno 17] File exists: "

/-- The name under which an obstacle enters the error log. -/
def logName : Obstacle → String
  | .absent => "FileNotFoundError"
  | .directory => "IsADirectoryError"
  | .file => "NotADirectoryError"
  | .occupied => "FileExistsError"

end Obstacle

/-- The name of a kind of values that hold others. -/
def Nesting.name : Nesting → String
  | .list => "array"
  | .object => "object"

namespace Fault

/-- A length of time in microseconds as days, seconds and microseconds, where only the days may
    be negative; parts that are zero are left out. -/
def lengthParts (micros : Int) : List (String × Int) :=
  let seconds := micros.fdiv 1000000
  [("days", seconds.fdiv 86400), ("seconds", seconds.fmod 86400),
   ("microseconds", micros.fmod 1000000)].filter (·.2 != 0)

/-- A length of time in words. -/
def lengthText (micros : Int) : Text :=
  let parts := (lengthParts micros).map fun p => p.1.toList ++ '=' :: Text.ofInt p.2
  "datetime.timedelta(".toList ++
    (if parts.isEmpty then ['0'] else Text.joinWith ", ".toList parts) ++ [')']

/-- The number of characters that are shown of a text that is no whole number. -/
def shownLiteral : Nat := 200

/-- **The words for a cause.** -/
def message : Fault → Option Text
  | .missingKey key => some (Text.quoted key)
  | .wrongType => none
  | .wrongShape => none
  | .noText kind => some ("'".toList ++ kind.toList ++ "' object has no attribute 'lower'".toList)
  | .noMember kind => some ("unhashable type: '".toList ++ kind.toList ++ "'".toList)
  | .unordered symbol left right =>
    some ("'".toList ++ symbol.toList ++ "' not supported between instances of '".toList ++
      left.toList ++ "' and '".toList ++ right.toList ++ "'".toList)
  | .noDifference left right =>
    some ("unsupported operand type(s) for -: '".toList ++ left.toList ++ "' and '".toList ++
      right.toList ++ "'".toList)
  | .notShown kind =>
    some ("unable to render ".toList ++ kind.toList ++
      "; a string or other renderable object is required".toList)
  | .tooLargeForFraction => some "int too large to convert to float".toList
  | .quotientTooLarge => some "integer division result too large for a float".toList
  | .notWhole => some "cannot convert float NaN to integer".toList
  | .malformedJson => none
  | .tooDeep nesting =>
    some ("maximum recursion depth exceeded".toList ++ nesting.toList.flatMap fun n =>
      " while decoding a JSON ".toList ++ n.name.toList ++ " from a unicode string".toList)
  | .tooManyDigits count =>
    some ("Exceeds the limit (4300 digits) for integer string conversion: value has ".toList ++
      Text.ofNat count ++ " digits; use sys.set_int_max_str_digits() to increase the limit".toList)
  | .badTimestamp t => some ("Invalid isoformat string: ".toList ++ Text.quoted t)
  | .timeField f => some f.message
  | .offsetTooLarge micros => some ("offset must be a timedelta strictly between ".toList ++
      "-timedelta(hours=24) and timedelta(hours=24), not ".toList ++ lengthText micros ++ ['.'])
  | .dateOverflow => some "date value out of range".toList
  | .endsBeforeStart id =>
    some ("Time entry ".toList ++ id ++ ": end_time must be after start_time".toList)
  | .unknownWord vocabulary word =>
    some (Text.quoted word ++ " is not a valid ".toList ++ vocabulary.name.toList)
  | .noSuchPosition => some "list index out of range".toList
  | .storeUnavailable => some "Record store is unavailable".toList
  | .unreadableRecords reason => some ("Could not read records: ".toList ++ reason)
  | .invalidQuery reason => some reason
  | .negativeBound => some "maxlen must be non-negative".toList
  | .missingFile => none
  | .badPath obstacle path => some (obstacle.message.toList ++ Text.quoted path)
  | .invalidSettings _ => none
  | .unreadableToken => none
  | .misplacedToken => none
  | .unbuildableValue => none
  | .noNumeral base t =>
    some ("invalid literal for int() with base ".toList ++ Text.ofNat base ++ ": ".toList ++
      (Text.quoted t).take shownLiteral)
  | .emptyNumeral => some "string index out of range".toList
  | .noNumber t => some ("could not convert string to float: ".toList ++ Text.quoted t)
  | .noSuchCharacter => some "chr() arg not in range(0x110000)".toList
  | .looseReference => none
  | .forbiddenCharacter => none
  | .unknownHome => some "Could not determine home directory.".toList
  | .tagNotOpen tag position =>
    some ("closing tag '".toList ++ tag ++ "' at position ".toList ++ Text.ofNat position ++
      " doesn't match any open tag".toList)
  | .nothingToClose position =>
    some ("closing tag '[/]' at position ".toList ++ Text.ofNat position ++
      " has nothing to close".toList)
  | .badHandler parameters handler reason =>
    some ("error parsing ".toList ++ Text.quoted parameters ++ " in ".toList ++
      Text.quoted handler ++ "; ".toList ++ reason)

/-- The name under which a cause enters the error log. -/
def logName : Fault → String
  | .storeUnavailable => "StoreAccessError"
  | .unreadableRecords _ => "IndexingError"
  | .invalidQuery _ => "InvalidQueryError"
  | .dateOverflow => "OverflowError"
  | .wrongType => "TypeError"
  | .noMember _ => "TypeError"
  | .unordered _ _ _ => "TypeError"
  | .noDifference _ _ => "TypeError"
  | .notShown _ => "NotRenderableError"
  | .wrongShape => "AttributeError"
  | .noText _ => "AttributeError"
  | .tooLargeForFraction => "OverflowError"
  | .quotientTooLarge => "OverflowError"
  | .missingKey _ => "KeyError"
  | .noSuchPosition => "IndexError"
  | .emptyNumeral => "IndexError"
  | .missingFile => "FileNotFoundError"
  | .badPath obstacle _ => obstacle.logName
  | .tooDeep _ => "RecursionError"
  | _ => "ValueError"

end Fault

end Worklog
