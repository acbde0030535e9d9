import Worklog.Proofs.History.Latest
import Worklog.Proofs.Index.Names
import Worklog.Proofs.Settings.Accepted
import Worklog.Proofs.Text.Casing
import Worklog.Session.Suggest

/-!
# What is suggested

Suggestions come from three lists, and four caps cut them: one for each kind, and one for all. So
what is suggested is told by the lists and the caps, and something is left out only where a cap was
reached. Settings are checked for a positive cap for all, but may have any caps for the kinds; a
negative one does not leave out its kind, but only so many suggestions at its end:

* `History.HasTexts.run`: the queries of a history are texts;
* `SearchSettings.KeptBy`, `SearchSettings.kept_offered`: **the caps are kept**, if they are not
  negative, and nothing else is left out;
* **`Session.suggest_offered`**: what is suggested in any session;
* `Session.suggest_negative_cap`: a negative cap, and a suggestion that it does not leave out.
-/

namespace Worklog

/-! ## 1. Queries of histories -/

namespace History

variable {h : History}

/-- The queries of a history: those of its entries that are texts. -/
def queries (h : History) : List Text := h.entries.filterMap Json.text?

/-- All entries of a history are texts. -/
def HasTexts (h : History) : Prop := ∀ v ∈ h.entries, ∃ t, v = .str t

theorem hasTexts_of_entries_eq {other : History} (hother : other.HasTexts)
    (heq : h.entries = other.entries) : h.HasTexts := fun v hv => hother v (heq ▸ hv)

/-- **Using a history keeps its entries texts**, unless others are read from a file. -/
theorem HasTexts.apply (ht : h.HasTexts) {u : Use} (hu : u ≠ .load) : (u.apply h).1.HasTexts := by
  obtain ⟨-, hentries⟩ := apply_spec h u
  cases u with
  | add query =>
      show (h.add query).HasTexts
      unfold add
      dsimp only
      split
      · exact ht
      · refine hasTexts_of_entries_eq (fun v hv => ?_) (persist_eq _).1
        rcases List.mem_cons.mp ((front_sublist _ _).subset hv) with rfl | hv
        · exact ⟨_, rfl⟩
        · exact ht v (List.erase_sublist.subset hv)
  | clear =>
      have hempty : HasTexts { h with entries := [] } := fun v hv => absurd hv List.not_mem_nil
      exact hasTexts_of_entries_eq hempty (persist_eq _).1
  | load => exact absurd rfl hu
  | save id name query panel now => exact hasTexts_of_entries_eq ht (hentries trivial rfl)
  | delete id => exact hasTexts_of_entries_eq ht (hentries trivial rfl)
  | touch now position => exact hasTexts_of_entries_eq ht (hentries trivial rfl)

theorem HasTexts.run {us : List Use} (hus : ∀ u ∈ us, u ≠ .load) : ∀ {h : History}, h.HasTexts →
    (History.run h us).HasTexts := by
  induction us with
  | nil => exact fun ht => ht
  | cons u us ih =>
      intro h ht
      exact ih (fun v hv => hus v (List.mem_cons_of_mem u hv))
        (ht.apply (hus u List.mem_cons_self))

theorem HasTexts.entries_eq (ht : h.HasTexts) : h.entries = h.queries.map .str := by
  unfold queries
  rw [List.map_filterMap]
  refine (List.filterMap_some (l := h.entries)).symm.trans (List.filterMap_congr fun v hv => ?_)
  obtain ⟨t, rfl⟩ := ht v hv
  rfl

theorem queries_map (ts : List Text) : (ts.map Json.str).filterMap Json.text? = ts := by
  rw [List.filterMap_map]
  exact List.filterMap_some

/-- **The queries that are suggested** are the first of those that contain a text. -/
theorem HasTexts.suggest_eq (ht : h.HasTexts) (t : Text) (limit : Int) : h.suggest t limit =
    .ok (front limit (h.queries.filter fun q => Text.occursIn (Text.lower t) (Text.lower q))) := by
  unfold suggest
  rw [ht.entries_eq, List.mapM_map, mapM_ok (g := id)]
  · rw [List.map_id]
    rfl
  · exact fun _ _ => rfl

/-- **The queries are the latest ones**, of those that were there and those that were added. -/
theorem queries_run (hlimit : 0 ≤ h.limit) {before after : List Use} {earlier : List Text}
    (hafter : ∀ u ∈ after, u.IsLasting) (hearlier : (History.run h before).Shows earlier) :
    (History.run h (before ++ after)).queries =
      front h.limit (latest (earlier ++ after.filterMap Use.query?)) := by
  have hshows := hearlier.run hafter (by rwa [limit_run])
  unfold Shows at hshows
  rw [limit_run, limit_run, ← run_append] at hshows
  unfold queries
  rw [hshows, queries_map]

end History

/-! ## 2. Caps -/

namespace SearchSettings

/-- The cap of a kind of suggestions. -/
def capOf (c : SearchSettings) : SuggestionKind → Int
  | .history => c.historySuggestions
  | .appName => c.appSuggestions
  | .project => c.projectSuggestions

variable (c : SearchSettings) (candidates : SuggestionKind → List Text)

/-- The suggestions of a kind, as many as its cap leaves. -/
def offeredOf (kind : SuggestionKind) : List Suggestion :=
  Session.suggestionsOf kind (front (c.capOf kind) (candidates kind))

/-- The suggestions of all kinds, one kind after the other. -/
def gathered : List Suggestion :=
  c.offeredOf candidates .history ++ c.offeredOf candidates .appName ++
    c.offeredOf candidates .project

/-- **What is offered of some candidates**: as many of all kinds as the cap for all leaves. -/
def offered : List Suggestion := front c.maxSuggestions (c.gathered candidates)

/-- **The caps are kept**, and a candidate is left out only if one of them is reached. -/
structure KeptBy (out : List Suggestion) : Prop where
  length_le : (out.length : Int) ≤ c.maxSuggestions
  kind_le : ∀ kind, 0 ≤ c.capOf kind → (out.countP (·.kind = kind) : Int) ≤ c.capOf kind
  mem : ∀ x ∈ out, x.text ∈ candidates x.kind
  leftOut : ∀ kind, 0 ≤ c.capOf kind → ∀ t ∈ candidates kind, ⟨t, kind⟩ ∉ out →
    (out.length : Int) = c.maxSuggestions ∨ (out.countP (·.kind = kind) : Int) = c.capOf kind

variable {c candidates} {kind : SuggestionKind} {x : Suggestion}

theorem mem_offeredOf : x ∈ c.offeredOf candidates kind ↔
    x.kind = kind ∧ x.text ∈ front (c.capOf kind) (candidates kind) := by
  unfold offeredOf Session.suggestionsOf
  rw [List.mem_map]
  constructor
  · rintro ⟨t, ht, rfl⟩
    exact ⟨rfl, ht⟩
  · rintro ⟨rfl, ht⟩
    exact ⟨x.text, ht, rfl⟩

theorem mem_gathered : x ∈ c.gathered candidates ↔
    x.text ∈ front (c.capOf x.kind) (candidates x.kind) := by
  unfold gathered
  rw [List.mem_append, List.mem_append, mem_offeredOf, mem_offeredOf, mem_offeredOf]
  obtain ⟨t, kind⟩ := x
  cases kind <;> simp

theorem countP_offeredOf (kind' : SuggestionKind) :
    (c.offeredOf candidates kind).countP (·.kind = kind') =
      if kind = kind' then (front (c.capOf kind) (candidates kind)).length else 0 := by
  unfold offeredOf Session.suggestionsOf
  rw [List.countP_map]
  split
  next h => exact List.countP_eq_length.mpr fun _ _ => decide_eq_true h
  next h => exact List.countP_eq_zero.mpr fun _ _ => by simpa using h

/-- Each kind has as many suggestions as its own cap leaves. -/
theorem countP_gathered (kind : SuggestionKind) : (c.gathered candidates).countP (·.kind = kind) =
    (front (c.capOf kind) (candidates kind)).length := by
  unfold gathered
  rw [List.countP_append, List.countP_append, countP_offeredOf, countP_offeredOf, countP_offeredOf]
  cases kind <;> simp

/-- **What is offered keeps to the caps.** -/
theorem kept_offered (hmax : 0 ≤ c.maxSuggestions) :
    c.KeptBy candidates (c.offered candidates) where
  length_le := length_front_le hmax _
  kind_le kind hcap := by
    have hless := (front_sublist c.maxSuggestions (c.gathered candidates)).countP_le
      (p := fun x => decide (x.kind = kind))
    rw [countP_gathered] at hless
    exact (Int.ofNat_le.mpr hless).trans (length_front_le hcap _)
  mem x hx :=
    (front_sublist _ _).subset (mem_gathered.mp ((front_sublist _ _).subset hx))
  leftOut kind hcap t ht hout := by
    -- either all was offered, and the cap of the kind cut, or the cap for all did
    rcases front_eq_or_length hmax (c.gathered candidates) with hall | hcut
    · right
      unfold offered at hout ⊢
      rw [hall] at hout ⊢
      rw [countP_gathered]
      refine (front_eq_or_length hcap (candidates kind)).resolve_left fun hsame => hout ?_
      rw [mem_gathered, hsame]
      exact ht
    · exact Or.inl hcut

end SearchSettings

/-! ## 3. Sessions -/

namespace Session

/-- **What there is to suggest for a text** in a session whose index is made of some records: the
    queries that contain it, latest first, and in alphabetical order the different names that do and
    that the records carry. -/
structure HasToOffer (s : Session) (live : List Record) (t : Text)
    (candidates : SuggestionKind → List Text) : Prop where
  queries : candidates .history =
    s.history.queries.filter fun q => Text.occursIn (Text.lower t) (Text.lower q)
  appNames : Index.IsChoice t (fun name => ∃ r ∈ live, r.appName? = some name)
    (candidates .appName)
  projectNames : Index.IsChoice t (fun name => ∃ r ∈ live, r.projectName? = some name)
    (candidates .project)

variable {s : Session} {live : List Record} {t : Text} {candidates : SuggestionKind → List Text}

/-- What there is to suggest contains the text. -/
theorem HasToOffer.contains (ho : s.HasToOffer live t candidates) {kind : SuggestionKind}
    {name : Text} (hname : name ∈ candidates kind) : Text.lower t <:+: Text.lower name := by
  cases kind with
  | history =>
      rw [ho.queries] at hname
      exact Text.occursIn_iff.mp (List.mem_filter.mp hname).2
  | appName => exact ((ho.appNames.mem_iff name).mp hname).2
  | project => exact ((ho.projectNames.mem_iff name).mp hname).2

theorem isChoice_lower {carried : Text → Prop} {names : List Text}
    (h : Index.IsChoice (Text.lower t) carried names) : Index.IsChoice t carried names :=
  ⟨h.sorted, fun name => by rw [h.mem_iff, Text.lower_lower]⟩

/-- **A text that is not blank** has the suggestions that the caps leave. -/
theorem exists_suggest (hholds : s.desk.index.Holds live) (htexts : s.history.HasTexts)
    {typed : Json} (hpartial : s.partialText typed = .ok (Text.lower t)) :
    ∃ candidates, s.HasToOffer live t candidates ∧
      (t ≠ [] → s.suggest typed = .ok (s.settings.search.offered candidates)) := by
  obtain ⟨apps, happs, hchoiceA⟩ := hholds.appNames (Text.lower t)
  obtain ⟨projects, hprojects, hchoiceP⟩ := hholds.projectNames (Text.lower t)
  have hqueries := htexts.suggest_eq (Text.lower t) s.settings.search.historySuggestions
  rw [Text.lower_lower] at hqueries
  let candidates : SuggestionKind → List Text
    | .history => s.history.queries.filter fun q => Text.occursIn (Text.lower t) (Text.lower q)
    | .appName => apps
    | .project => projects
  refine ⟨candidates, ⟨rfl, isChoice_lower hchoiceA, isChoice_lower hchoiceP⟩, fun hne => ?_⟩
  have hfull : ¬(Text.lower t).isEmpty = true := fun hempty =>
    hne (Text.lowerFrom_eq_nil (List.isEmpty_iff.mp hempty))
  unfold suggest
  rw [hpartial, ok_bind, if_neg hfull]
  dsimp only
  rw [hqueries, ok_bind, happs, ok_bind, hprojects, ok_bind]
  rfl

/-- What a session has become after some operations on its index and some uses of its history. -/
structure Becomes (s₀ : Session) (ops : List Index.Op) (uses : List History.Use) (s : Session) :
    Prop where
  settings : s.settings = s₀.settings
  index : s.desk.index = (s₀.desk.index.run ops).1
  history : s.history = s₀.history.run uses

/-- A new session has an empty index, and a history as long as the settings say. -/
theorem start_spec {c : Settings} {file : StateFile} {now : Moment} {s₀ : Session}
    (h : start c file now = .ok s₀) : s₀.settings = c ∧
      s₀.desk.index = .empty c.index.titleSample now ∧
      s₀.history.limit = c.search.historyLimit := by
  obtain ⟨loaded, hload, hs₀⟩ := bind_eq_ok.mp h
  cases hs₀
  exact ⟨rfl, rfl, History.limit_load hload⟩

/-- **What is suggested in any session.** Let a session start with accepted settings and a state
    file in which the queries are texts, and let then its index be changed by any operations on
    records with texts, and its history be used in any way. The text to complete is what is typed,
    or the present query. If it is blank, nothing is suggested; otherwise the queries, then the app
    names, then the project names that contain it, as far as the caps go, and a cap that is not
    negative is kept. The queries are the latest of those that the history showed at some time and
    those that were added after it. -/
theorem suggest_offered {homes : Homes} {v : Yaml.Value} {c : Settings}
    (hsettings : Settings.read homes v = .ok c) {file : StateFile} {now : Moment} {s₀ s : Session}
    (hstart : start c file now = .ok s₀) (htexts : s₀.history.HasTexts) {ops : List Index.Op}
    (hops : ∀ op ∈ ops, op.HasTexts) {uses : List History.Use} (huses : ∀ u ∈ uses, u ≠ .load)
    (hs : s₀.Becomes ops uses s) {typed : Json} {t : Text}
    (htyped : (if typed.isGiven then typed else s.query) = .str t) :
    ∃ candidates out, s.suggest typed = .ok out ∧
      s.HasToOffer (Index.survivors ops) (Text.strip t) candidates ∧
      (Text.strip t = [] → out = []) ∧
      (Text.strip t ≠ [] → out = c.search.offered candidates ∧ c.search.KeptBy candidates out) ∧
      (∀ x ∈ out, Text.lower (Text.strip t) <:+: Text.lower x.text) ∧
      ∀ before after earlier, uses = before ++ after → (∀ u ∈ after, u.IsLasting) →
        (s₀.history.run before).Shows earlier → s.history.queries =
          front c.search.historyLimit
            (History.latest (earlier ++ after.filterMap History.Use.query?)) := by
  obtain ⟨hsettings₀, hindex₀, hlimit₀⟩ := start_spec hstart
  have hbounds := Settings.bounded_of_read hsettings
  have hc : s.settings = c := hs.settings.trans hsettings₀
  have hholds := (Index.Holds.run ops (.empty c.index.titleSample now) hops).2
  rw [← hindex₀, ← hs.index] at hholds
  have hpartial : s.partialText typed = .ok (Text.lower (Text.strip t)) := by
    unfold partialText
    rw [htyped]
  obtain ⟨candidates, hoffer, hsuggest⟩ :=
    exists_suggest hholds (hs.history ▸ htexts.run huses) hpartial
  rw [hc] at hsuggest
  have hlatest : ∀ before after earlier, uses = before ++ after → (∀ u ∈ after, u.IsLasting) →
      (s₀.history.run before).Shows earlier → s.history.queries =
        front c.search.historyLimit
          (History.latest (earlier ++ after.filterMap History.Use.query?)) := by
    intro before after earlier hsplit hafter hearlier
    rw [hs.history, hsplit, ← hlimit₀]
    exact History.queries_run (hlimit₀ ▸ hbounds.history.le) hafter hearlier
  by_cases hblank : Text.strip t = []
  · refine ⟨candidates, [], ?_, hoffer, fun _ => rfl, fun hne => absurd hblank hne,
      fun x hx => absurd hx List.not_mem_nil, hlatest⟩
    unfold suggest
    rw [hpartial, ok_bind, hblank]
    rfl
  · have hkept : c.search.KeptBy candidates (c.search.offered candidates) :=
      SearchSettings.kept_offered hbounds.suggestions.le
    exact ⟨candidates, _, hsuggest hblank, hoffer, fun hnil => absurd hnil hblank,
      fun _ => ⟨rfl, hkept⟩, fun x hx => hoffer.contains (hkept.mem x hx), hlatest⟩

/-- A system with one user. -/
def oneHome : Homes := ⟨"/root".toList, fun _ => none⟩

/-- Settings with a cap for queries, ... -/
def capped (cap : Int) : Settings := { search := { historySuggestions := cap } }

/-- ... and the document of them. -/
def cappedDocument (cap : Int) : Yaml.Value :=
  .table [(.text "search".toList,
    .table [(.text "history_suggestions".toList, .whole cap)])]

/-- The second query is the latest one. -/
def twoQueries : List History.Use := [.add "alpha".toList, .add "alpine".toList]

/-- One project is filed. -/
def oneProject : List Index.Op := [.add default (.project ⟨['p'], .str "Alps".toList, .null⟩)]

/-- A session with two queries, whose index is the result of some operations. -/
def searchedTwice (c : Settings) (ops : List Index.Op) : Session :=
  ⟨c, { newDesk c default with index := ((newIndex c default).run ops).1 },
    (History.empty c.search.historyLimit .unused).run twoQueries, .str "al".toList, .blank, .empty,
    []⟩

/-- Of two queries one is suggested, if there is a cap of one. -/
theorem suggest_offered_capped :
    Settings.read oneHome (cappedDocument 1) = .ok (capped 1) ∧
      (searchedTwice (capped 1) oneProject).history.queries =
        ["alpine".toList, "alpha".toList] ∧
      ∃ candidates out, (searchedTwice (capped 1) oneProject).suggest .null = .ok out ∧
        (searchedTwice (capped 1) oneProject).HasToOffer (Index.survivors oneProject) "al".toList
          candidates ∧
        out = (capped 1).search.offered candidates ∧
        (capped 1).search.KeptBy candidates out := by
  have hread : Settings.read oneHome (cappedDocument 1) = .ok (capped 1) := rfl
  have hops : ∀ op ∈ oneProject, op.HasTexts := by decide
  have hlasting : ∀ u ∈ twoQueries, u.IsLasting := by simp [twoQueries, History.Use.IsLasting]
  have huses : ∀ u ∈ twoQueries, u ≠ .load := by simp [twoQueries]
  let s₀ : Session :=
    ⟨capped 1, newDesk (capped 1) default, .empty 20 .unused, .str [], .blank, .empty, []⟩
  have hstart : start (capped 1) .unused default = .ok s₀ := rfl
  have hbecomes : s₀.Becomes oneProject twoQueries (searchedTwice (capped 1) oneProject) :=
    ⟨rfl, rfl, rfl⟩
  obtain ⟨candidates, out, hsuggest, hoffer, -, hoffered, -, hlatest⟩ :=
    suggest_offered hread hstart (fun v hv => absurd hv List.not_mem_nil) hops huses hbecomes
      (show (if Json.null.isGiven then Json.null else .str "al".toList) = .str "al".toList from rfl)
  obtain ⟨hout, hkept⟩ := hoffered (by decide)
  have hqueries := hlatest [] twoQueries [] rfl hlasting (History.StartsEmpty.new rfl).shows
  exact ⟨hread, hqueries.trans (by decide), candidates, out, hsuggest, hoffer, hout, hkept⟩

/-- **A cap of minus one** is accepted, and leaves out the earlier query only. -/
theorem suggest_negative_cap :
    Settings.read oneHome (cappedDocument (-1)) = .ok (capped (-1)) ∧
      (capped (-1)).search.capOf .history < 0 ∧
      (searchedTwice (capped (-1)) []).suggest .null = .ok [⟨"alpine".toList, .history⟩] := by
  refine ⟨rfl, by decide, ?_⟩
  have hpartial : (searchedTwice (capped (-1)) []).partialText .null = .ok "al".toList := rfl
  have hqueries : (searchedTwice (capped (-1)) []).history.suggest "al".toList (-1) =
    .ok ["alpine".toList] := rfl
  have hnone : Index.namesWith "al".toList [] = [] := List.mergeSort_nil
  have happs : (searchedTwice (capped (-1)) []).desk.index.appNames "al".toList = .ok [] :=
    congrArg Except.ok hnone
  have hprojects : (searchedTwice (capped (-1)) []).desk.index.projectNames "al".toList = .ok [] :=
    congrArg Except.ok hnone
  unfold suggest
  rw [hpartial, ok_bind, if_neg (by decide)]
  dsimp only
  show ((searchedTwice (capped (-1)) []).history.suggest "al".toList (-1) >>= fun _ => _) = _
  rw [hqueries, ok_bind, happs, ok_bind, hprojects, ok_bind]
  rfl

end Session

end Worklog
