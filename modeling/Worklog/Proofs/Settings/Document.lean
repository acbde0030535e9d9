import Worklog.Proofs.Settings.Accepted
import Worklog.Proofs.Settings.Path
import Worklog.Settings.File

/-!
# The document of accepted settings

Settings are read from what a person wrote, in whatever form the readers take: a number as text, a
level in small letters, a path from the home directory. The document of the settings has each of
them in one form, and in this form it is taken back.

* **`Check.TakesBack`**: a reader takes back what it gave; `Check.TakesBack.member`: so does a
  setting;
* `SearchSettings.GivenBy.again` and its like: a group is given by its own document;
* `Settings.IsSettled`: a path that was expanded, which is not expanded again;
* `Settings.GivenBy.again`: all settings are given by their own document;
* `Settings.IsSound`, `Settings.GivenBy.isSound`: what holds of all settings that are accepted;
* **`Settings.read_toJson`**: accepted settings are read again from their own document.

A number that has to be positive is refused if it is zero or less. What is no number is neither, so
it is accepted (`Settings.undefined_accepted`).
-/

namespace Worklog

open Yaml (Value)

/-! ## 1. Readers -/

namespace Check

variable {α : Type} {read : Value → Except Objection α} {write : α → Json}

/-- **A reader takes back what it gave**, in the form in which documents have it. -/
def TakesBack (read : Value → Except Objection α) (write : α → Json) : Prop :=
  ∀ (w : Value) (a : α), read w = .ok a → read (.ofJson (write a)) = .ok a

/-- **A setting is given by the form in which it is written**, if its reader takes back what it
    gave, and takes the default. -/
theorem TakesBack.member (h : TakesBack read write) {path : List String} {key : String}
    {default a : α} (hdefault : read (.ofJson (write default)) = .ok default) {v v' : Value}
    (ha : member path key read default v = .good a)
    (hv' : v'.member? key = some (.ofJson (write a))) :
    member path key read default v' = .good a := by
  have hread : read (.ofJson (write a)) = .ok a := by
    rcases of_member ha with rfl | ⟨w, hw⟩
    · exact hdefault
    · exact h w a hw
  unfold Check.member
  rw [hv']
  simp only [hread]

theorem takesBack_whole : TakesBack whole .int := fun _ _ _ => rfl

theorem takesBack_switch : TakesBack switch .bool := fun _ _ _ => rfl

theorem takesBack_text : TakesBack text .str := fun _ _ _ => rfl

theorem takesBack_natural (name : String) : TakesBack (natural name) .int := by
  intro w n h
  have hn : ¬n < 0 := Int.not_lt.mpr (natural_nonneg h)
  show (if n < 0 then _ else _) = _
  rw [if_neg hn]
  rfl

theorem takesBack_positiveWhole (name : String) : TakesBack (positiveWhole name) .int := by
  intro w n h
  have hn : ¬n ≤ 0 := Int.not_le.mpr (positiveWhole_pos h)
  show (if n ≤ 0 then _ else _) = _
  rw [if_neg hn]
  rfl

theorem takesBack_positiveNumber (name : String) : TakesBack (positiveNumber name) .real := by
  intro w q h
  show (if q.le (.finite 0) then _ else _) = _
  rw [if_neg (positiveNumber_not_le h)]
  rfl

/-- A path is given in normal form, and that is its own. -/
theorem takesBack_path : TakesBack path Json.ofText? := by
  intro w p h
  cases w with
  | null =>
      cases h
      rfl
  | text t =>
      cases h
      exact congrArg (fun u => Except.ok (some u)) (Path.normalize_twice t)
  | _ => cases h

end Check

namespace LogSettings

/-- A level that was read is one of the list. -/
theorem mem_levels_of_readLevel {v : Value} {level : Text} (h : readLevel v = .ok level) :
    level ∈ levels := by
  unfold readLevel at h
  cases htext : Check.text v with
  | error o =>
      rw [htext] at h
      cases h
  | ok t =>
      rw [htext] at h
      by_cases hmem : levels.contains (t.flatMap upperChar) = true
      · simp only [bind, Except.bind, if_pos hmem] at h
        cases h
        exact List.contains_iff_mem.mp hmem
      · simp only [bind, Except.bind, if_neg hmem] at h
        cases h

/-- A level of the list is in capital letters, and reading it changes none of them. -/
theorem upper_of_mem_levels {level : Text} (h : level ∈ levels) :
    level.flatMap upperChar = level ∧ ∀ c ∈ level, c.isUpper = true := by
  have hall : levels.all (fun l => l.flatMap upperChar == l && l.all Char.isUpper) = true := by
    decide
  have hlevel := List.all_eq_true.mp hall level h
  rw [Bool.and_eq_true, beq_iff_eq, List.all_eq_true] at hlevel
  exact hlevel

theorem takesBack_readLevel : Check.TakesBack readLevel .str := by
  intro w level h
  have hmem := mem_levels_of_readLevel h
  show (if levels.contains (level.flatMap upperChar) then _ else _) = _
  rw [(upper_of_mem_levels hmem).1, if_pos (List.contains_iff_mem.mpr hmem)]
  rfl

end LogSettings

/-! ## 2. Groups -/

section Groups

variable {v : Value}

/-- The document of the settings of searches. -/
def SearchSettings.document (c : SearchSettings) : Json :=
  .obj [("app_suggestions", .int c.appSuggestions), ("debounce_ms", .int c.debounceMs),
    ("history_limit", .int c.historyLimit), ("history_suggestions", .int c.historySuggestions),
    ("max_suggestions", .int c.maxSuggestions), ("project_suggestions", .int c.projectSuggestions),
    ("slow_search_seconds", .real c.slowSeconds)]

/-- The document of the settings of the cache. -/
def CacheSettings.document (c : CacheSettings) : Json :=
  .obj [("enabled", .bool c.enabled), ("max_entries", .int c.capacity),
    ("ttl_seconds", .real c.lifetime)]

/-- The document of the settings of the index. -/
def IndexSettings.document (c : IndexSettings) : Json :=
  .obj [("common_terms_limit", .int c.commonTerms), ("window_title_sample", .int c.titleSample)]

/-- The document of the settings of the log. -/
def LogSettings.document (c : LogSettings) : Json :=
  .obj [("file", Json.ofText? c.file), ("level", .str c.level), ("retention", .str c.retention),
    ("rotation", .str c.rotation)]

theorem SearchSettings.GivenBy.again {c : SearchSettings} (h : c.GivenBy v) :
    c.GivenBy (.ofJson c.document) where
  debounceMs := (Check.takesBack_natural _).member rfl h.debounceMs rfl
  historyLimit := (Check.takesBack_positiveWhole _).member rfl h.historyLimit rfl
  maxSuggestions := (Check.takesBack_positiveWhole _).member rfl h.maxSuggestions rfl
  historySuggestions := Check.takesBack_whole.member rfl h.historySuggestions rfl
  appSuggestions := Check.takesBack_whole.member rfl h.appSuggestions rfl
  projectSuggestions := Check.takesBack_whole.member rfl h.projectSuggestions rfl
  slowSeconds := (Check.takesBack_positiveNumber _).member rfl h.slowSeconds rfl

theorem CacheSettings.GivenBy.again {c : CacheSettings} (h : c.GivenBy v) :
    c.GivenBy (.ofJson c.document) where
  enabled := Check.takesBack_switch.member rfl h.enabled rfl
  lifetime := (Check.takesBack_positiveNumber _).member rfl h.lifetime rfl
  capacity := (Check.takesBack_positiveWhole _).member rfl h.capacity rfl

theorem IndexSettings.GivenBy.again {c : IndexSettings} (h : c.GivenBy v) :
    c.GivenBy (.ofJson c.document) where
  titleSample := (Check.takesBack_positiveWhole _).member rfl h.titleSample rfl
  commonTerms := (Check.takesBack_positiveWhole _).member rfl h.commonTerms rfl

theorem LogSettings.GivenBy.again {c : LogSettings} (h : c.GivenBy v) :
    c.GivenBy (.ofJson c.document) where
  level := LogSettings.takesBack_readLevel.member rfl h.level rfl
  file := Check.takesBack_path.member rfl h.file rfl
  rotation := Check.takesBack_text.member rfl h.rotation rfl
  retention := Check.takesBack_text.member rfl h.retention rfl

end Groups

namespace Check

/-- A number that is not zero or less is positive, or no number. -/
theorem positive_iff {q : Quantity} (h : ¬q.le (.finite 0) = true) :
    (Quantity.finite 0).lt q = true ↔ q ≠ .undefined := by
  cases q with
  | finite x =>
      rw [Quantity.le_finite, decide_eq_true_eq] at h
      rw [Quantity.lt_finite, decide_eq_true_eq]
      exact iff_of_true (Rat.not_le.mp h) nofun
  | negZero => exact absurd rfl h
  | infinite negative =>
      cases negative with
      | true => exact absurd rfl h
      | false => exact iff_of_true rfl nofun
  | undefined => exact iff_of_false Bool.false_ne_true fun hne => hne rfl

/-- An accepted setting that has to be positive is, if its default is and it is a number. -/
theorem positive_of_member {path : List String} {key name : String} {v : Value} {d q : Quantity}
    (hd : d.le (.finite 0) = false) (h : member path key (positiveNumber name) d v = .good q) :
    (Quantity.finite 0).lt q = true ↔ q ≠ .undefined := by
  rcases of_member h with rfl | ⟨w, hw⟩
  · exact positive_iff (Bool.eq_false_iff.mp hd)
  · exact positive_iff (positiveNumber_not_le hw)

end Check

namespace Settings

variable {homes : Homes} {v : Value} {s : Settings}

/-- The document of settings holds those of the groups. -/
theorem toJson_eq (s : Settings) : s.toJson = .obj [("cache", s.cache.document),
    ("data_path", Json.ofText? s.dataPath), ("index", s.index.document),
    ("logging", s.log.document), ("search", s.search.document),
    ("state_path", Json.ofText? s.statePath)] := rfl

/-! ## 3. Paths -/

/-- **A path of accepted settings** was left out, or expanded. -/
theorem path_cases {key : String} {expanded path : Option Text}
    (hexpanded : expandMember homes key v = .ok expanded)
    (h : PathGivenBy key expanded path v) :
    path = none ∨ ∃ t p, path = some p ∧ Path.expand homes t = .ok p := by
  unfold expandMember at hexpanded
  unfold PathGivenBy at h
  rcases Check.of_member h with rfl | ⟨w, hw⟩
  · exact Or.inl rfl
  obtain rfl : expanded = path := by
    cases hpath : Check.path w with
    | error o =>
        rw [hpath] at hw
        cases hw
    | ok p =>
        rw [hpath] at hw
        exact Except.ok.inj hw
  split at hexpanded
  next t _ =>
    obtain ⟨p, hp, rfl⟩ := map_eq_ok.mp hexpanded
    exact Or.inr ⟨t, p, rfl, hp⟩
  next => exact Or.inl (Except.ok.inj hexpanded).symm

/-- **A path that is settled**: it expands to itself, wherever the home directories are, and does
    not start with `~`. -/
def IsSettled (path : Option Text) : Prop :=
  ∀ p, path = some p → (∀ elsewhere, Path.expand elsewhere p = .ok p) ∧ p.head? ≠ some '~'

theorem isSettled_of_givenBy (hhomes : homes.AreAbsolute) {key : String}
    {expanded path : Option Text} (hexpanded : expandMember homes key v = .ok expanded)
    (h : PathGivenBy key expanded path v) : IsSettled path := by
  rcases path_cases hexpanded h with rfl | ⟨t, q, rfl, hq⟩
  · exact nofun
  · intro p hp
    cases hp
    exact ⟨Path.expand_expand hhomes hq, Path.head_expand hhomes hq⟩

/-- A settled path is taken as it is from the form in which it is written. -/
theorem IsSettled.again {path : Option Text} (h : IsSettled path) {key : String}
    (hv : v.member? key = some (.ofJson (Json.ofText? path))) (elsewhere : Homes) :
    expandMember elsewhere key v = .ok path ∧ PathGivenBy key path path v := by
  unfold expandMember PathGivenBy Check.member
  rw [hv]
  cases path with
  | none => exact ⟨rfl, rfl⟩
  | some p => exact ⟨map_eq_ok.mpr ⟨p, (h p rfl).1 elsewhere, rfl⟩, rfl⟩

/-! ## 4. All settings -/

theorem GivenBy.groups {dataPath statePath : Option Text} (h : s.GivenBy dataPath statePath v) :
    (∃ w, s.search.GivenBy w) ∧ (∃ w, s.cache.GivenBy w) ∧ (∃ w, s.index.GivenBy w) ∧
      ∃ w, s.log.GivenBy w := by
  obtain ⟨_, hsearch⟩ := Check.of_group h.search
  obtain ⟨_, hcache⟩ := Check.of_group h.cache
  obtain ⟨_, hindex⟩ := Check.of_group h.index
  obtain ⟨_, hlog⟩ := Check.of_group h.log
  exact ⟨⟨_, SearchSettings.givenBy_iff.mp hsearch⟩, ⟨_, CacheSettings.givenBy_iff.mp hcache⟩,
    ⟨_, IndexSettings.givenBy_iff.mp hindex⟩, ⟨_, LogSettings.givenBy_iff.mp hlog⟩⟩

/-- **Settings with settled paths are given by their own document.** -/
theorem GivenBy.again {dataPath statePath : Option Text} (h : s.GivenBy dataPath statePath v)
    (hdata : IsSettled s.dataPath) (hstate : IsSettled s.statePath) (elsewhere : Homes) :
    read elsewhere (.ofJson s.toJson) = .ok s := by
  obtain ⟨⟨_, hsearch⟩, ⟨_, hcache⟩, ⟨_, hindex⟩, ⟨_, hlog⟩⟩ := h.groups
  have hdata' : (Value.ofJson s.toJson).member? "data_path" =
      some (.ofJson (Json.ofText? s.dataPath)) := rfl
  have hstate' : (Value.ofJson s.toJson).member? "state_path" =
      some (.ofJson (Json.ofText? s.statePath)) := rfl
  obtain ⟨hexpand, hgiven⟩ := hdata.again hdata' elsewhere
  obtain ⟨hexpandState, hgivenState⟩ := hstate.again hstate' elsewhere
  refine read_eq_ok.mpr ⟨_, _, _, rfl, rfl, hexpand, hexpandState, hgiven, hgivenState,
    ?_, ?_, ?_, ?_⟩
  · exact SearchSettings.givenBy_iff.mpr hsearch.again
  · exact CacheSettings.givenBy_iff.mpr hcache.again
  · exact IndexSettings.givenBy_iff.mpr hindex.again
  · exact LogSettings.givenBy_iff.mpr hlog.again

/-- **What holds of all settings that are accepted.** The two numbers that have to be positive are,
    unless they are no numbers. -/
structure IsSound (s : Settings) : Prop where
  search : s.search.Bounded
  slowSeconds : (Quantity.finite 0).lt s.search.slowSeconds = true ↔
    s.search.slowSeconds ≠ .undefined
  lifetime : (Quantity.finite 0).lt s.cache.lifetime = true ↔ s.cache.lifetime ≠ .undefined
  capacity : 0 < s.cache.capacity
  titleSample : 0 < s.index.titleSample
  commonTerms : 0 < s.index.commonTerms
  level : s.log.level ∈ LogSettings.levels ∧ ∀ c ∈ s.log.level, c.isUpper = true
  dataPath : ∀ p, s.dataPath = some p → p.head? ≠ some '~'
  statePath : ∀ p, s.statePath = some p → p.head? ≠ some '~'

theorem GivenBy.isSound {dataPath statePath : Option Text} (h : s.GivenBy dataPath statePath v)
    (hdata : IsSettled s.dataPath) (hstate : IsSettled s.statePath) : s.IsSound := by
  obtain ⟨⟨_, hsearch⟩, ⟨_, hcache⟩, ⟨_, hindex⟩, ⟨_, hlog⟩⟩ := h.groups
  have hlevel : s.log.level ∈ LogSettings.levels := by
    rcases Check.of_member hlog.level with hdefault | ⟨w, hw⟩
    · rw [hdefault]
      decide
    · exact LogSettings.mem_levels_of_readLevel hw
  exact {
    search := hsearch.bounded
    slowSeconds := Check.positive_of_member rfl hsearch.slowSeconds
    lifetime := Check.positive_of_member rfl hcache.lifetime
    capacity := Check.pos_of_member (by decide) hcache.capacity
    titleSample := Check.pos_of_member (by decide) hindex.titleSample
    commonTerms := Check.pos_of_member (by decide) hindex.commonTerms
    level := ⟨hlevel, (LogSettings.upper_of_mem_levels hlevel).2⟩
    dataPath := fun p hp => (hdata p hp).2
    statePath := fun p hp => (hstate p hp).2 }

/-- **Accepted settings are read again from their own document**, wherever the home directories are
    then: they are the same settings, and so is their document. If the file to which they are saved
    reads as this document, they are loaded from it. Accepted settings are sound. All this is said
    of settings that were read where home directories are absolute paths. -/
theorem read_toJson (hhomes : homes.AreAbsolute) (h : read homes v = .ok s) :
    (∀ elsewhere, read elsewhere (.ofJson s.toJson) = .ok s) ∧
    (Value.read s.toText = .ok (.ofJson s.toJson) → ∀ (m : Type → Type) [Monad m] [LawfulMonad m]
      (fetch : Text → m (Option (Except Fault Text))) (program file : Text) (elsewhere : Homes),
      fetch file = pure (some (.ok s.toText)) →
        load fetch program elsewhere (some file) = pure (.ok s)) ∧
    s.IsSound := by
  obtain ⟨_, _, _, -, -, hdata, hstate, hgiven⟩ := read_eq_ok.mp h
  have hdata' := isSettled_of_givenBy hhomes hdata hgiven.dataPath
  have hstate' := isSettled_of_givenBy hhomes hstate hgiven.statePath
  have hagain := hgiven.again hdata' hstate'
  refine ⟨hagain, ?_, hgiven.isSound hdata' hstate'⟩
  intro hread m _ _ fetch program file elsewhere hfetch
  have htext : ofText elsewhere s.toText = .ok s := by
    unfold ofText
    rw [hread]
    exact hagain elsewhere
  unfold load fetchFile
  simp only [hfetch, pure_bind]
  exact congrArg pure htext

/-- A document with a path from the own home directory and one from another user's, a level in small
    letters, a number as text, and some number of seconds. -/
def documentWith (seconds : Json) : Value :=
  .ofJson (.obj [("data_path", .str "~//work/./log.json".toList),
    ("state_path", .str "~daemon/state".toList),
    ("logging", .obj [("level", .str "debug".toList)]),
    ("search", .obj [("debounce_ms", .str "+0_150".toList), ("slow_search_seconds", seconds)])])

/-- The home directories of a system with one more user. -/
def twoHomes : Homes :=
  ⟨"/home/tester".toList, fun user =>
    if user = "daemon".toList then some "/usr/sbin/".toList else none⟩

theorem areAbsolute_twoHomes : twoHomes.AreAbsolute where
  own := rfl
  ofUser user h hh := by
    unfold twoHomes at hh
    dsimp only at hh
    split at hh
    · cases hh
      rfl
    · cases hh

/-- The document of these settings writes most of them in another form. -/
theorem read_toJson_forms : ∃ s,
    read twoHomes (documentWith (.real (.finite 2))) = .ok s ∧
    s.dataPath = some "/home/tester/work/log.json".toList ∧
    s.statePath = some "/usr/sbin/state".toList ∧ s.log.level = "DEBUG".toList ∧
    s.search.debounceMs = 150 ∧ s.search.slowSeconds = .finite 2 ∧
    read twoHomes (.ofJson s.toJson) = .ok s ∧ s.IsSound := by
  have hread : read twoHomes (documentWith (.real (.finite 2))) = .ok {
      dataPath := some "/home/tester/work/log.json".toList
      statePath := some "/usr/sbin/state".toList
      search := { slowSeconds := .finite 2, debounceMs := 150 }
      log := { level := "DEBUG".toList } } := rfl
  obtain ⟨hagain, -, hsound⟩ := read_toJson areAbsolute_twoHomes hread
  exact ⟨_, hread, rfl, rfl, rfl, rfl, rfl, hagain _, hsound⟩

/-- **What is no number is accepted** where a positive number is asked for. -/
theorem undefined_accepted : ∃ s,
    read twoHomes (documentWith (.str "nan".toList)) = .ok s ∧
    (Quantity.finite 0).lt s.search.slowSeconds = false := ⟨_, rfl, rfl⟩

end Settings

end Worklog
