import Worklog.Proofs.Index.Run
import Worklog.Proofs.Text.Lowercase

/-!
# The names that an index suggests

An index counts the names that its records carry, so that a name goes with the last record that
carries it. What it suggests for a text can be told from the records alone:

* `Record.appName?`, `Record.projectName?`: the names that records carry;
* `Record.filing_appName`, `Record.filing_projectName`: a record is filed with its names;
* `Index.IsChoice`, **`Index.Holds.appNames`**, **`Index.Holds.projectNames`**: the carried names
  that contain a text, in alphabetical order and each of them once.
-/

namespace Worklog

/-! ## 1. Names of records -/

namespace Json

/-- The text of a value that is one. -/
def text? : Json → Option Text
  | .str t => some t
  | _ => none

end Json

namespace Record

/-- The app name of a record, which only an activity has. -/
def appName? : Record → Option Text
  | .activity a => a.appName.text?
  | _ => none

/-- The project name of a record, which only a project has. -/
def projectName? : Record → Option Text
  | .project p => p.name.text?
  | _ => none

end Record

namespace Index

/-- An app name after one more field. -/
def appWith (app : Option Label) : Field × Json → Option Label
  | (.appName, .str t) => some (.text t)
  | _ => app

/-- A project name after one more field. -/
def projectWith (project : Option Label) : Field × Json → Option Label
  | (.projectName, .str t) => some (.text t)
  | _ => project

/-- What a field that holds what it is for makes of the names of a filing. -/
theorem exists_gather_names {f : Field × Json} (h : f.1.admits f.2 = true) (F : Filing)
    (rest : List (Field × Json)) : ∃ G : Filing, gather F (f :: rest) = gather G rest ∧
      G.app = appWith F.app f ∧ G.project = projectWith F.project f := by
  obtain ⟨field, v⟩ := f
  cases v with
  | null => cases field with
    | appName => cases h
    | title => cases h
    | projectName => cases h
    | _ => exact ⟨{ F with terms := F.terms ++ [] }, rfl, rfl, rfl⟩
  | str t => cases field with
    | _ => exact ⟨_, rfl, rfl, rfl⟩
  | _ => cases h

/-- **Fields are gathered** with the names among them. -/
theorem names_gather : ∀ (fields : List (Field × Json)) (F : Filing),
    (∀ f ∈ fields, f.1.admits f.2 = true) →
    (gather F fields).1.app = fields.foldl appWith F.app ∧
      (gather F fields).1.project = fields.foldl projectWith F.project
  | [], _, _ => ⟨rfl, rfl⟩
  | f :: rest, F, h => by
      obtain ⟨G, hG, happ, hproject⟩ := exists_gather_names (h f List.mem_cons_self) F rest
      rw [hG, List.foldl_cons, List.foldl_cons, ← happ, ← hproject]
      exact names_gather rest G fun g hg => h g (List.mem_cons_of_mem f hg)

end Index

namespace Record

variable {r : Record}

/-- **A record is filed with its app name.** -/
theorem filing_appName (h : r.HasTexts) : r.filing.app = r.appName?.map .text := by
  refine (Index.names_gather r.fields _ h).1.trans ?_
  cases r with
  | activity a =>
      show Index.appWith none (.appName, a.appName) = a.appName.text?.map .text
      cases a.appName <;> rfl
  | timeEntry e => rfl
  | project p => rfl

/-- **A record is filed with its project name.** -/
theorem filing_projectName (h : r.HasTexts) : r.filing.project = r.projectName?.map .text := by
  refine (Index.names_gather r.fields _ h).2.trans ?_
  cases r with
  | activity a => rfl
  | timeEntry e => rfl
  | project p =>
      show Index.projectWith none (.projectName, p.name) = p.name.text?.map .text
      cases p.name <;> rfl

end Record

/-! ## 2. Names that contain a text -/

namespace Index

/-- **The names to choose from for a text**: those of some names that contain it, letter case aside,
    in alphabetical order and each of them once. -/
structure IsChoice (t : Text) (carried : Text → Prop) (names : List Text) : Prop where
  sorted : names.Pairwise fun a b => Text.lt a b = true
  mem_iff : ∀ name, name ∈ names ↔ carried name ∧ Text.lower t <:+: Text.lower name

theorem isChoice_namesWith {t : Text} {names : List Text} (h : names.Nodup) :
    IsChoice t (· ∈ names) (namesWith t names) where
  sorted := Text.pairwise_lt_mergeSort (h.filter _)
  mem_iff name := by
    unfold namesWith
    rw [List.mem_mergeSort, List.mem_filter, Text.occursIn_iff]

/-- **Counted names are suggested** as long as they are carried. -/
theorem exists_choice {tally : Tally Label} {carried : List Text}
    (h : tally.Counts (carried.map .text)) (t : Text) : ∃ names,
      (nameTexts (Table.keys tally) >>= fun texts => pure (namesWith t texts)) = .ok names ∧
        IsChoice t (· ∈ carried) names := by
  have hkeys : ∀ l, l ∈ Table.keys tally ↔ ∃ name ∈ carried, Label.text name = l := fun l => by
    rw [h.mem_keys_iff, List.mem_map]
  have hnames : ∀ name, name ∈ (Table.keys tally).filterMap nameText? ↔ name ∈ carried :=
    fun name => by
      rw [List.mem_filterMap]
      constructor
      · rintro ⟨l, hl, hname⟩
        obtain ⟨name', hcarried, rfl⟩ := (hkeys l).mp hl
        exact Option.some.inj hname ▸ hcarried
      · exact fun hcarried => ⟨.text name, (hkeys _).mpr ⟨name, hcarried, rfl⟩, rfl⟩
  have hnodup : ((Table.keys tally).filterMap nameText?).Nodup := by
    refine h.nodup.filterMap fun l m name hl hm => ?_
    cases l with
    | text s =>
        cases m with
        | text s' =>
            exact congrArg Label.text ((Option.some.inj hl).trans (Option.some.inj hm).symm)
        | _ => cases hm
    | _ => cases hl
  have hchoice := isChoice_namesWith (t := t) hnodup
  refine ⟨_, ?_, hchoice.sorted, fun name => ?_⟩
  · rw [nameTexts_eq fun l hl => ?_]
    · rfl
    · obtain ⟨name, -, rfl⟩ := (hkeys l).mp hl
      exact ⟨name, rfl⟩
  · rw [hchoice.mem_iff, hnames]

/-- Names that filed records carry are suggested. -/
theorem exists_choice_filed {tally : Tally Label} {live : List Record}
    {filed : Record → Option Label} {name? : Record → Option Text}
    (h : tally.Counts (live.filterMap filed)) (hname : ∀ r ∈ live, filed r = (name? r).map .text)
    (t : Text) : ∃ names,
      (nameTexts (Table.keys tally) >>= fun texts => pure (namesWith t texts)) = .ok names ∧
        IsChoice t (fun name => ∃ r ∈ live, name? r = some name) names := by
  have hfiled : live.filterMap filed = (live.filterMap name?).map .text := by
    rw [List.map_filterMap]
    exact List.filterMap_congr hname
  obtain ⟨names, hnames, hchoice⟩ := exists_choice (hfiled ▸ h) t
  exact ⟨names, hnames, hchoice.sorted, fun name => by rw [hchoice.mem_iff, List.mem_filterMap]⟩

/-- **The app names that are suggested** are those that filed activities carry. -/
theorem Holds.appNames {i : Index} {live : List Record} (h : i.Holds live) (t : Text) :
    ∃ names, i.appNames t = .ok names ∧
      IsChoice t (fun name => ∃ r ∈ live, r.appName? = some name) names :=
  exists_choice_filed h.apps (fun r hr => Record.filing_appName (h.texts r hr)) t

/-- **The project names that are suggested** are those that filed projects carry. -/
theorem Holds.projectNames {i : Index} {live : List Record} (h : i.Holds live) (t : Text) :
    ∃ names, i.projectNames t = .ok names ∧
      IsChoice t (fun name => ∃ r ∈ live, r.projectName? = some name) names :=
  exists_choice_filed h.projects (fun r hr => Record.filing_projectName (h.texts r hr)) t

end Index

end Worklog
