import Worklog.Settings.Basic
import Worklog.Yaml.Printer

/-!
# Settings files

Settings are kept in files. The program looks for its own file in the working directory first and
in the home directory then; a file that is named stands alone.

How a file is fetched is left open: `fetch` gives the text of a file, or the fault with which it
cannot be read, or nothing where there is no file, in any monad.
-/

namespace Worklog.Settings

/-- **The settings that a text describes.** A document that counts as not given describes none. -/
def ofText (homes : Homes) (t : Text) : Except Fault Settings := do
  let v ← Yaml.Value.read t
  read homes (if v.truthy then v else .table [])

/-- **The text that describes settings.** -/
def toText (s : Settings) : Text := Yaml.print s.toJson

/-- Where the settings file of a program may be, the likelier place first. -/
def places (program : Text) (homes : Homes) : List Text :=
  [program ++ ".yaml".toList,
    Path.join homes.own (".config/".toList ++ program ++ "/config.yaml".toList)]

variable {m : Type → Type} [Monad m] (fetch : Text → m (Option (Except Fault Text)))

/-- The text of the first of some files that is there. -/
def fetchFirst : List Text → m (Option (Except Fault Text))
  | [] => pure none
  | place :: rest => do
    match ← fetch place with
    | some t => pure (some t)
    | none => fetchFirst rest

/-- The text of the settings file: the one named, or the first of the usual places. -/
def fetchFile (program : Text) (homes : Homes) : Option Text → m (Option (Except Fault Text))
  | some path => fetch path
  | none => fetchFirst fetch (places program homes)

/-- **Loads the settings file**, which has to be there. -/
def load (program : Text) (homes : Homes) (path : Option Text) : m (Except Fault Settings) := do
  match ← fetchFile fetch program homes path with
  | some t => pure (t.bind (ofText homes))
  | none => pure (.error .missingFile)

/-- **Loads the settings file**, or the defaults where there is none. -/
def loadOrDefault (program : Text) (homes : Homes) (path : Option Text) :
    m (Except Fault Settings) := do
  match ← fetchFile fetch program homes path with
  | some t => pure (t.bind (ofText homes))
  | none => pure (.ok {})

end Worklog.Settings
