import Worklog.Settings.Check

/-!
# Settings

The settings of the program, group by group, with their defaults. `Settings.read` checks a document
and gives the settings or all complaints about it; keys that are no settings do not matter.
`Settings.toJson` is the document of settings.
-/

namespace Worklog

open Yaml (Value)

/-! ## 1. Groups -/

/-- How searches behave. -/
structure SearchSettings where
  debounceMs : Int := 300
  historyLimit : Int := 20
  maxSuggestions : Int := 10
  historySuggestions : Int := 5
  appSuggestions : Int := 3
  projectSuggestions : Int := 3
  slowSeconds : Quantity := .finite 1
  deriving DecidableEq

/-- How results are cached. -/
structure CacheSettings where
  enabled : Bool := true
  lifetime : Quantity := .finite 300
  capacity : Int := 50
  deriving DecidableEq

/-- What the index keeps for suggestions and reports. -/
structure IndexSettings where
  titleSample : Int := 1000
  commonTerms : Int := 20
  deriving DecidableEq

/-- What is logged where. -/
structure LogSettings where
  level : Text := "INFO".toList
  file : Option Text := none
  rotation : Text := "1 day".toList
  retention : Text := "7 days".toList
  deriving DecidableEq

/-- All settings. -/
structure Settings where
  dataPath : Option Text := none
  statePath : Option Text := none
  search : SearchSettings := {}
  cache : CacheSettings := {}
  index : IndexSettings := {}
  log : LogSettings := {}
  deriving DecidableEq

/-! ## 2. Checking -/

/-- Checks the settings of searches. -/
def SearchSettings.read (v : Value) : Checked SearchSettings :=
  let d : SearchSettings := {}
  let field {α : Type} (key : String) (r : String → Value → Except Objection α) (a : α) :=
    Check.member ["search"] key (r key) a v
  SearchSettings.mk
    <$> field "debounce_ms" Check.natural d.debounceMs
    <*> field "history_limit" Check.positiveWhole d.historyLimit
    <*> field "max_suggestions" Check.positiveWhole d.maxSuggestions
    <*> field "history_suggestions" (fun _ => Check.whole) d.historySuggestions
    <*> field "app_suggestions" (fun _ => Check.whole) d.appSuggestions
    <*> field "project_suggestions" (fun _ => Check.whole) d.projectSuggestions
    <*> field "slow_search_seconds" Check.positiveNumber d.slowSeconds

/-- Checks the settings of the cache. -/
def CacheSettings.read (v : Value) : Checked CacheSettings :=
  let d : CacheSettings := {}
  let field {α : Type} (key : String) (r : String → Value → Except Objection α) (a : α) :=
    Check.member ["cache"] key (r key) a v
  CacheSettings.mk
    <$> field "enabled" (fun _ => Check.switch) d.enabled
    <*> field "ttl_seconds" Check.positiveNumber d.lifetime
    <*> field "max_entries" Check.positiveWhole d.capacity

/-- Checks the settings of the index. -/
def IndexSettings.read (v : Value) : Checked IndexSettings :=
  let d : IndexSettings := {}
  let field {α : Type} (key : String) (r : String → Value → Except Objection α) (a : α) :=
    Check.member ["index"] key (r key) a v
  IndexSettings.mk
    <$> field "window_title_sample" Check.positiveWhole d.titleSample
    <*> field "common_terms_limit" Check.positiveWhole d.commonTerms

namespace LogSettings

/-- The levels of the log. -/
def levels : List Text :=
  ["TRACE", "DEBUG", "INFO", "SUCCESS", "WARNING", "ERROR", "CRITICAL"].map String.toList

/-- The upper case of a character, as far as it consists of ASCII letters. -/
def upperChar (c : Char) : Text :=
  let n := c.toNat
  if n = 0xDF then ['S', 'S']
  else if n = 0x131 then ['I']
  else if n = 0x17F then ['S']
  else [c.toUpper]

/-- A level in any letter case. -/
def readLevel (v : Value) : Except Objection Text := do
  let t ← Check.text v
  let level := t.flatMap upperChar
  if levels.contains level then return level
  else throw (Check.refused ("Unknown log level: ".toList ++ t))

/-- Checks the settings of the log. -/
def read (v : Value) : Checked LogSettings :=
  let d : LogSettings := {}
  let field {α : Type} (key : String) (r : Value → Except Objection α) (a : α) :=
    Check.member ["logging"] key r a v
  LogSettings.mk
    <$> field "level" readLevel d.level
    <*> field "file" Check.path d.file
    <*> field "rotation" Check.text d.rotation
    <*> field "retention" Check.text d.retention

end LogSettings

namespace Settings

/-- A path that may start at the home directory. -/
def expand (homes : Homes) : Option Text → Except Fault (Option Text)
  | some t => (Path.expand homes t).map some
  | none => .ok none

/-- Expands a path of a document if it is one. -/
def expandMember (homes : Homes) (key : String) (v : Value) : Except Fault (Option Text) :=
  match v.member? key with
  | some (.text t) => expand homes (some t)
  | _ => .ok none

/-- Checks all settings; the two paths are taken as expanded. -/
def check (dataPath statePath : Option Text) (v : Value) : Checked Settings :=
  let path (key : String) (expanded : Option Text) : Checked (Option Text) :=
    Check.member [] key (fun w => (Check.path w).map fun _ => expanded) none v
  Settings.mk
    <$> path "data_path" dataPath
    <*> path "state_path" statePath
    <*> Check.group "search" SearchSettings.read v
    <*> Check.group "cache" CacheSettings.read v
    <*> Check.group "index" IndexSettings.read v
    <*> Check.group "logging" LogSettings.read v

/-- **Reads settings from a document**: a table whose keys are texts. -/
def read (homes : Homes) (v : Value) : Except Fault Settings :=
  match v with
  | .table members =>
    if Value.hasTextKeys members then do
      let dataPath ← expandMember homes "data_path" v
      let statePath ← expandMember homes "state_path" v
      (check dataPath statePath v).toExcept
    else .error .wrongType
  | _ => .error .wrongType

/-! ## 3. As a document -/

/-- **The document of settings.** Every group lists its settings by name. -/
def toJson (s : Settings) : Json :=
  .obj [
    ("cache", .obj [("enabled", .bool s.cache.enabled), ("max_entries", .int s.cache.capacity),
      ("ttl_seconds", .real s.cache.lifetime)]),
    ("data_path", Json.ofText? s.dataPath),
    ("index", .obj [("common_terms_limit", .int s.index.commonTerms),
      ("window_title_sample", .int s.index.titleSample)]),
    ("logging", .obj [("file", Json.ofText? s.log.file), ("level", .str s.log.level),
      ("retention", .str s.log.retention), ("rotation", .str s.log.rotation)]),
    ("search", .obj [("app_suggestions", .int s.search.appSuggestions),
      ("debounce_ms", .int s.search.debounceMs), ("history_limit", .int s.search.historyLimit),
      ("history_suggestions", .int s.search.historySuggestions),
      ("max_suggestions", .int s.search.maxSuggestions),
      ("project_suggestions", .int s.search.projectSuggestions),
      ("slow_search_seconds", .real s.search.slowSeconds)]),
    ("state_path", Json.ofText? s.statePath)]

end Settings

end Worklog
