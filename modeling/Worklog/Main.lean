import Std.Time.DateTime.Timestamp
import Worklog.Command.Run

/-!
# The program

The command line with the files, the home directories and the clock of the machine; local time is
UTC. What was printed goes to standard output, complaints go to standard error.
-/

namespace Worklog.Program

/-- The days from the first day of year 1 to the first day of 1970. -/
def epochDays : Nat := 719162

/-- The present moment. -/
def present : IO Moment := do
  let t ← Std.Time.Timestamp.now
  let micros := t.toNanosecondsSinceUnixEpoch.val / 1000
  return (Moment.ofMicros? (epochDays * Moment.dayMicros + micros)).getD default

/-- What stands under a path on the machine; what cannot be read counts as a directory. -/
def look (path : Text) : IO Entry := do
  try
    return .file (← IO.FS.readFile (String.ofList path)).toList
  catch
    | .noFileOrDirectory .. => return .absent
    | _ => return .directory

/-- The home directory that a table of users gives a user: the sixth field of the line that starts
    with the name. -/
def homeIn? (table user : Text) : Option Text :=
  (Text.lines table).findSome? fun line => match line.splitOn ':' with
    | name :: fields => if name = user then fields[4]? else none
    | [] => none

/-- The home directories of the machine. -/
def homes : IO Homes := do
  let own := ((← IO.getEnv "HOME").getD "").toList
  match ← look "/etc/passwd".toList with
  | .file table => return ⟨own, homeIn? table⟩
  | _ => return ⟨own, fun _ => none⟩

/-- The program on the machine. -/
def host : IO (Host IO) := do
  let name := "worklog".toList
  return ⟨name, name, ← homes, ← present, look⟩

/-- Writes a file, and the directories in which it is. -/
def write (path text : Text) : IO Unit := do
  IO.FS.createDirAll (String.ofList (Path.parent path))
  IO.FS.writeFile (String.ofList path) (String.ofList text)

/-- The complaint with which a command line ends, if it ends with one. -/
def complaint (h : Host IO) : Ending → List Text
  | .done => []
  | .failed => []
  | .misused reason => match reason.message with
    | some m => ["Error: ".toList ++ m]
    | none => (Page.shown (Help.ofProgram h.program h.called)).1
  | .stopped cause => [cause.logName.toList ++ match cause.message with
    | some m => ": ".toList ++ m
    | none => []]

/-- Runs a command line on the machine, and answers its exit status. -/
def run (words : List Text) : IO UInt32 := do
  let h ← host
  let o ← h.run Precision.double words
  o.lines.forM fun line => IO.println (String.ofList line)
  (complaint h o.ending).forM fun line => IO.eprintln (String.ofList line)
  match o.written with
  | some (path, text) => write path text
  | none => pure ()
  return o.ending.status.toUInt32

end Worklog.Program

/-- Runs the command line. -/
def main (arguments : List String) : IO UInt32 :=
  Worklog.Program.run (arguments.map String.toList)
