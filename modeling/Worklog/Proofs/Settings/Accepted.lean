import Worklog.Proofs.Fault
import Worklog.Settings.Basic

/-!
# Settings that are accepted

`Checked` gathers the complaints about all settings, so settings are accepted just if each of them
is: what is known of one setting can be told from its own check.

* `Checked.apply_eq_good`, `Check.of_member`, `Check.of_group`: an accepted whole has accepted
  parts;
* `SearchSettings.GivenBy` and its like for the other groups, `Settings.GivenBy`: the settings that
  a document gives, each read from its own member; **`Settings.read_eq_ok`**: just these are read;
* **`SearchSettings.Bounded`**, `Settings.bounded_of_read`: the bounds of searches that are checked.
  The caps of the three kinds of suggestions have none.
-/

namespace Worklog

open Yaml (Value)

namespace Checked

variable {α β : Type}

/-- A function and its argument are both good if the value is. -/
theorem apply_eq_good {f : Checked (α → β)} {a : Checked α} {b : β} (h : f <*> a = .good b) :
    ∃ g x, f = .good g ∧ a = .good x ∧ g x = b := by
  cases f with
  | bad cs =>
      cases a with
      | bad ds => cases h
      | good x => cases h
  | good g =>
      cases a with
      | bad ds => cases h
      | good x =>
          cases h
          exact ⟨g, x, rfl, rfl, rfl⟩

theorem map_eq_good {g : α → β} {a : Checked α} {b : β} (h : g <$> a = .good b) :
    ∃ x, a = .good x ∧ g x = b := by
  obtain ⟨g', x, hg, hx, hb⟩ := apply_eq_good (f := pure g) h
  cases hg
  exact ⟨x, hx, hb⟩

theorem toExcept_eq_ok {c : Checked α} {a : α} : c.toExcept = .ok a ↔ c = .good a := by
  cases c with
  | good b => exact ⟨fun h => congrArg good (Except.ok.inj h), fun h => by cases h; rfl⟩
  | bad cs => exact ⟨nofun, nofun⟩

end Checked

/-! ## 1. Settings and groups -/

namespace Check

variable {α : Type} {path : List String} {key : String} {v : Value}

/-- **An accepted setting** is the default, or was read of some value. -/
theorem of_member {read : Value → Except Objection α} {default a : α}
    (h : member path key read default v = .good a) : a = default ∨ ∃ w, read w = .ok a := by
  unfold member at h
  split at h
  · cases h
    exact Or.inl rfl
  · split at h
    next hread =>
      cases h
      exact Or.inr ⟨_, hread⟩
    next => cases h

/-- **An accepted group** was read of some table. -/
theorem of_group {read : Value → Checked α} {a : α} (h : group key read v = .good a) :
    ∃ ms, read (.table ms) = .good a := by
  unfold group at h
  split at h
  · exact ⟨_, h⟩
  · exact ⟨_, h⟩
  · cases h

/-- What is accepted is not one of those that are refused. -/
theorem not_refused {m : Except Objection α} (refuse : α → Prop) [DecidablePred refuse]
    {o : Objection} {a : α} (h : (do
      let a ← m
      if refuse a then throw o
      return a) = Except.ok a) : ¬refuse a := by
  cases m with
  | error o => cases h
  | ok b =>
      by_cases hrefuse : refuse b
      · simp only [bind, Except.bind, if_pos hrefuse] at h
        cases h
      · simp only [bind, Except.bind, if_neg hrefuse] at h
        cases h
        exact hrefuse

theorem positiveWhole_pos {name : String} {n : Int} (h : positiveWhole name v = .ok n) : 0 < n :=
  Int.not_le.mp (not_refused (· ≤ 0) h)

theorem natural_nonneg {name : String} {n : Int} (h : natural name v = .ok n) : 0 ≤ n :=
  Int.not_lt.mp (not_refused (· < 0) h)

theorem positiveNumber_not_le {name : String} {q : Quantity} (h : positiveNumber name v = .ok q) :
    ¬q.le (.finite 0) = true :=
  not_refused (fun q : Quantity => q.le (.finite 0) = true) h

end Check

/-! ## 2. What a document gives -/

/-- **The settings of searches that a document gives**: each is read from its own member. -/
structure SearchSettings.GivenBy (c : SearchSettings) (v : Value) : Prop where
  debounceMs : Check.member ["search"] "debounce_ms" (Check.natural "debounce_ms") 300 v =
    .good c.debounceMs
  historyLimit : Check.member ["search"] "history_limit"
    (Check.positiveWhole "history_limit") 20 v = .good c.historyLimit
  maxSuggestions : Check.member ["search"] "max_suggestions"
    (Check.positiveWhole "max_suggestions") 10 v = .good c.maxSuggestions
  historySuggestions : Check.member ["search"] "history_suggestions" Check.whole 5 v =
    .good c.historySuggestions
  appSuggestions : Check.member ["search"] "app_suggestions" Check.whole 3 v =
    .good c.appSuggestions
  projectSuggestions : Check.member ["search"] "project_suggestions" Check.whole 3 v =
    .good c.projectSuggestions
  slowSeconds : Check.member ["search"] "slow_search_seconds"
    (Check.positiveNumber "slow_search_seconds") (.finite 1) v = .good c.slowSeconds

theorem SearchSettings.givenBy_iff {v : Value} {c : SearchSettings} :
    SearchSettings.read v = .good c ↔ c.GivenBy v := by
  constructor
  · intro h
    -- the settings in their order, taken off from the last
    obtain ⟨_, slow, h₆, hslow, rfl⟩ := Checked.apply_eq_good h
    obtain ⟨_, projects, h₅, hprojects, rfl⟩ := Checked.apply_eq_good h₆
    obtain ⟨_, apps, h₄, happs, rfl⟩ := Checked.apply_eq_good h₅
    obtain ⟨_, entries, h₃, hentries, rfl⟩ := Checked.apply_eq_good h₄
    obtain ⟨_, most, h₂, hmost, rfl⟩ := Checked.apply_eq_good h₃
    obtain ⟨_, limit, h₁, hlimit, rfl⟩ := Checked.apply_eq_good h₂
    obtain ⟨ms, hms, rfl⟩ := Checked.map_eq_good h₁
    exact ⟨hms, hlimit, hmost, hentries, happs, hprojects, hslow⟩
  · intro h
    unfold SearchSettings.read
    dsimp only
    rw [h.debounceMs, h.historyLimit, h.maxSuggestions, h.historySuggestions, h.appSuggestions,
      h.projectSuggestions, h.slowSeconds]
    rfl

/-- **The settings of the cache that a document gives.** -/
structure CacheSettings.GivenBy (c : CacheSettings) (v : Value) : Prop where
  enabled : Check.member ["cache"] "enabled" Check.switch true v = .good c.enabled
  lifetime : Check.member ["cache"] "ttl_seconds" (Check.positiveNumber "ttl_seconds")
    (.finite 300) v = .good c.lifetime
  capacity : Check.member ["cache"] "max_entries" (Check.positiveWhole "max_entries") 50 v =
    .good c.capacity

theorem CacheSettings.givenBy_iff {v : Value} {c : CacheSettings} :
    CacheSettings.read v = .good c ↔ c.GivenBy v := by
  constructor
  · intro h
    obtain ⟨_, capacity, h₂, hcapacity, rfl⟩ := Checked.apply_eq_good h
    obtain ⟨_, lifetime, h₁, hlifetime, rfl⟩ := Checked.apply_eq_good h₂
    obtain ⟨enabled, henabled, rfl⟩ := Checked.map_eq_good h₁
    exact ⟨henabled, hlifetime, hcapacity⟩
  · intro h
    unfold CacheSettings.read
    dsimp only
    rw [h.enabled, h.lifetime, h.capacity]
    rfl

/-- **The settings of the index that a document gives.** -/
structure IndexSettings.GivenBy (c : IndexSettings) (v : Value) : Prop where
  titleSample : Check.member ["index"] "window_title_sample"
    (Check.positiveWhole "window_title_sample") 1000 v = .good c.titleSample
  commonTerms : Check.member ["index"] "common_terms_limit"
    (Check.positiveWhole "common_terms_limit") 20 v = .good c.commonTerms

theorem IndexSettings.givenBy_iff {v : Value} {c : IndexSettings} :
    IndexSettings.read v = .good c ↔ c.GivenBy v := by
  constructor
  · intro h
    obtain ⟨_, terms, h₁, hterms, rfl⟩ := Checked.apply_eq_good h
    obtain ⟨sample, hsample, rfl⟩ := Checked.map_eq_good h₁
    exact ⟨hsample, hterms⟩
  · intro h
    unfold IndexSettings.read
    dsimp only
    rw [h.titleSample, h.commonTerms]
    rfl

/-- **The settings of the log that a document gives.** -/
structure LogSettings.GivenBy (c : LogSettings) (v : Value) : Prop where
  level : Check.member ["logging"] "level" LogSettings.readLevel "INFO".toList v = .good c.level
  file : Check.member ["logging"] "file" Check.path none v = .good c.file
  rotation : Check.member ["logging"] "rotation" Check.text "1 day".toList v = .good c.rotation
  retention : Check.member ["logging"] "retention" Check.text "7 days".toList v = .good c.retention

theorem LogSettings.givenBy_iff {v : Value} {c : LogSettings} :
    LogSettings.read v = .good c ↔ c.GivenBy v := by
  constructor
  · intro h
    obtain ⟨_, retention, h₃, hretention, rfl⟩ := Checked.apply_eq_good h
    obtain ⟨_, rotation, h₂, hrotation, rfl⟩ := Checked.apply_eq_good h₃
    obtain ⟨_, file, h₁, hfile, rfl⟩ := Checked.apply_eq_good h₂
    obtain ⟨level, hlevel, rfl⟩ := Checked.map_eq_good h₁
    exact ⟨hlevel, hfile, hrotation, hretention⟩
  · intro h
    unfold LogSettings.read
    dsimp only
    rw [h.level, h.file, h.rotation, h.retention]
    rfl

namespace Settings

/-- **A path that a document gives**, for which it is taken as expanded. -/
def PathGivenBy (key : String) (expanded path : Option Text) (v : Value) : Prop :=
  Check.member [] key (fun w => (Check.path w).map fun _ => expanded) none v = .good path

/-- **The settings that a document gives**, where its two paths are taken as expanded. -/
structure GivenBy (s : Settings) (dataPath statePath : Option Text) (v : Value) : Prop where
  dataPath : PathGivenBy "data_path" dataPath s.dataPath v
  statePath : PathGivenBy "state_path" statePath s.statePath v
  search : Check.group "search" SearchSettings.read v = .good s.search
  cache : Check.group "cache" CacheSettings.read v = .good s.cache
  index : Check.group "index" IndexSettings.read v = .good s.index
  log : Check.group "logging" LogSettings.read v = .good s.log

theorem givenBy_iff {dataPath statePath : Option Text} {v : Value} {s : Settings} :
    check dataPath statePath v = .good s ↔ s.GivenBy dataPath statePath v := by
  constructor
  · intro h
    obtain ⟨_, log, h₅, hlog, rfl⟩ := Checked.apply_eq_good h
    obtain ⟨_, index, h₄, hindex, rfl⟩ := Checked.apply_eq_good h₅
    obtain ⟨_, cache, h₃, hcache, rfl⟩ := Checked.apply_eq_good h₄
    obtain ⟨_, search, h₂, hsearch, rfl⟩ := Checked.apply_eq_good h₃
    obtain ⟨_, state, h₁, hstate, rfl⟩ := Checked.apply_eq_good h₂
    obtain ⟨data, hdata, rfl⟩ := Checked.map_eq_good h₁
    exact ⟨hdata, hstate, hsearch, hcache, hindex, hlog⟩
  · intro h
    have hdata := h.dataPath
    have hstate := h.statePath
    unfold PathGivenBy at hdata hstate
    unfold check
    dsimp only
    rw [hdata, hstate, h.search, h.cache, h.index, h.log]
    rfl

/-- **Settings are read of a document** that is a table whose keys are texts, whose paths can be
    expanded, and which then gives the settings. -/
theorem read_eq_ok {homes : Homes} {v : Value} {s : Settings} :
    read homes v = .ok s ↔ ∃ members dataPath statePath, v = .table members ∧
      Value.hasTextKeys members = true ∧ expandMember homes "data_path" v = .ok dataPath ∧
      expandMember homes "state_path" v = .ok statePath ∧ s.GivenBy dataPath statePath v := by
  constructor
  · intro h
    unfold read at h
    split at h
    next members =>
      split at h
      next hkeys =>
        obtain ⟨dataPath, hdata, hrest⟩ := bind_eq_ok.mp h
        obtain ⟨statePath, hstate, hcheck⟩ := bind_eq_ok.mp hrest
        exact ⟨members, dataPath, statePath, rfl, hkeys, hdata, hstate,
          givenBy_iff.mp (Checked.toExcept_eq_ok.mp hcheck)⟩
      next => cases h
    next => cases h
  · rintro ⟨members, dataPath, statePath, rfl, hkeys, hdata, hstate, h⟩
    show (if Value.hasTextKeys members then _ else _) = _
    rw [if_pos hkeys, hdata, ok_bind, hstate, ok_bind]
    exact Checked.toExcept_eq_ok.mpr (givenBy_iff.mpr h)

end Settings

/-! ## 3. Bounds -/

/-- **The bounds of searches**, as far as settings are checked for them. -/
structure SearchSettings.Bounded (c : SearchSettings) : Prop where
  debounce : 0 ≤ c.debounceMs
  history : 0 < c.historyLimit
  suggestions : 0 < c.maxSuggestions

namespace Check

variable {path : List String} {key name : String} {v : Value} {d n : Int}

/-- An accepted setting that has to be positive is, if its default is. -/
theorem pos_of_member (hd : 0 < d) (h : member path key (positiveWhole name) d v = .good n) :
    0 < n := by
  rcases of_member h with rfl | ⟨w, hw⟩
  · exact hd
  · exact positiveWhole_pos hw

theorem nonneg_of_member (hd : 0 ≤ d) (h : member path key (natural name) d v = .good n) :
    0 ≤ n := by
  rcases of_member h with rfl | ⟨w, hw⟩
  · exact hd
  · exact natural_nonneg hw

end Check

theorem SearchSettings.GivenBy.bounded {v : Value} {c : SearchSettings} (h : c.GivenBy v) :
    c.Bounded where
  debounce := Check.nonneg_of_member (by decide) h.debounceMs
  history := Check.pos_of_member (by decide) h.historyLimit
  suggestions := Check.pos_of_member (by decide) h.maxSuggestions

/-- **Accepted settings keep to the bounds.** -/
theorem Settings.bounded_of_read {homes : Homes} {v : Value} {s : Settings}
    (h : Settings.read homes v = .ok s) : s.search.Bounded := by
  obtain ⟨_, _, _, -, -, -, -, hgiven⟩ := Settings.read_eq_ok.mp h
  obtain ⟨_, hread⟩ := Check.of_group hgiven.search
  exact (SearchSettings.givenBy_iff.mp hread).bounded

end Worklog
