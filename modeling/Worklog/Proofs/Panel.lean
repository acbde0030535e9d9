import Worklog.Criteria
import Worklog.Proofs.Fault
import Worklog.Search.Plan

/-!
# Panels with equal settings

Two panels with the same key ask the same of every record, although a number on one of them may be
written in another way on the other:

* `Json.length_labels`: values that all have a label keep their number as labels;
* **`Panel.isKeyed_of_read`**: the selections of a panel that a document gives have labels;
* `Panel.Matches`: what it means for a panel to have a key;
* **`Panel.keepsTo_of_label`**: a bound on a length is looked at through its label only;
* **`Panel.Matches.path_eq`**, **`Panel.Matches.complexity_eq`**: for panels with the same key a
  search is planned in the same way.
-/

namespace Worklog

/-! ## 1. Labels -/

namespace Json

/-- Whether a value can be a member of a set. -/
def isMember (v : Json) : Bool := v.label.isOk

theorem exists_label {v : Json} (h : v.isMember = true) : ∃ l, v.label = .ok l := by
  unfold isMember at h
  cases hl : v.label with
  | ok l => exact ⟨l, rfl⟩
  | error f =>
      rw [hl] at h
      cases h

theorem isMember_of_label {v : Json} {l : Label} (h : v.label = .ok l) : v.isMember = true := by
  unfold isMember
  rw [h]
  rfl

/-- **Members keep their number as labels.** -/
theorem length_labels : ∀ {vs : List Json}, (∀ v ∈ vs, v.isMember = true) →
    (labels vs).length = vs.length
  | [], _ => rfl
  | v :: vs, h => by
      obtain ⟨l, hl⟩ := exists_label (h v List.mem_cons_self)
      have hrest := length_labels fun w hw => h w (List.mem_cons_of_mem v hw)
      have hcons : labels (v :: vs) = l :: labels vs :=
        List.filterMap_cons_some (by rw [hl]; rfl)
      rw [hcons, List.length_cons, hrest, List.length_cons]

/-- Values are taken with their labels. -/
theorem label_of_mem_fresh : ∀ {vs : List Json} {seen : List Label} {es : List (Label × Json)},
    fresh seen vs = .ok es → ∀ e ∈ es, e.2.label = .ok e.1
  | [], _, _, h, e, he => by
      cases h
      cases he
  | v :: vs, seen, es, h, e, he => by
      obtain ⟨l, hl, h⟩ := bind_eq_ok.mp h
      split at h
      · exact label_of_mem_fresh h e he
      · obtain ⟨rest, hrest, h⟩ := bind_eq_ok.mp h
        cases h
        rcases List.mem_cons.mp he with rfl | he
        · exact hl
        · exact label_of_mem_fresh hrest e he

/-- Distinct values are members. -/
theorem isMember_of_mem_distinct {vs ws : List Json} (h : distinct vs = .ok ws) {w : Json}
    (hw : w ∈ ws) : w.isMember = true := by
  obtain ⟨es, hes, h⟩ := bind_eq_ok.mp h
  cases h
  obtain ⟨e, he, rfl⟩ := List.mem_map.mp hw
  exact isMember_of_label (label_of_mem_fresh hes e (List.mem_mergeSort.mp he))

end Json

/-! ## 2. Panels whose selections have labels -/

namespace Panel

/-- What is selected can be a member of a set. -/
structure IsKeyed (f : Panel) : Prop where
  projects : ∀ v ∈ f.projects, v.isMember = true
  apps : ∀ v ∈ f.apps, v.isMember = true

instance (f : Panel) : Decidable f.IsKeyed :=
  decidable_of_iff ((∀ v ∈ f.projects, v.isMember = true) ∧ ∀ v ∈ f.apps, v.isMember = true)
    ⟨fun h => ⟨h.1, h.2⟩, fun h => ⟨h.projects, h.apps⟩⟩

theorem isKeyed_blank : blank.IsKeyed := by decide

/-- A panel on which nothing is set is the blank one. -/
theorem eq_blank {f : Panel} (h : f.isActive = false) : f = blank := by
  have hnull : ∀ {v : Json}, v.isGiven = false → v = .null := fun {v} hv => by
    cases v with
    | null => rfl
    | _ => cases hv
  obtain ⟨start, finish, projects, apps, least, greatest, excludeIdle⟩ := f
  simp only [isActive, Bool.or_eq_false_iff, Option.isSome_eq_false_iff, Option.isNone_iff_eq_none,
    Bool.not_eq_false', List.isEmpty_iff] at h
  obtain ⟨⟨⟨⟨⟨⟨hstart, hfinish⟩, hprojects⟩, happs⟩, hleast⟩, hgreatest⟩, hidle⟩ := h
  rw [hstart, hfinish, hprojects, happs, hnull hleast, hnull hgreatest, hidle]
  rfl

theorem isMember_of_mem_selection {v : Json} {vs : List Json} (h : selection v = .ok vs) {w : Json}
    (hw : w ∈ vs) : w.isMember = true := by
  unfold selection at h
  split at h
  · obtain ⟨items, -, h⟩ := bind_eq_ok.mp h
    exact Json.isMember_of_mem_distinct h hw
  · cases h
    cases hw

/-- **What a document selects can be a member of a set.** -/
theorem isKeyed_of_read {v : Json} {f : Panel} (h : read v = .ok f) : f.IsKeyed := by
  cases v with
  | obj members =>
      obtain ⟨start, -, h⟩ := bind_eq_ok.mp h
      obtain ⟨finish, -, h⟩ := bind_eq_ok.mp h
      obtain ⟨projects, hprojects, h⟩ := bind_eq_ok.mp h
      obtain ⟨apps, happs, h⟩ := bind_eq_ok.mp h
      cases h
      exact ⟨fun _ hw => isMember_of_mem_selection hprojects hw,
        fun _ hw => isMember_of_mem_selection happs hw⟩
  | _ => cases h

/-! ## 3. Panels with a key -/

/-- **A panel has a key**: the settings of both are the same. -/
structure Matches (f : Panel) (k : PanelKey) : Prop where
  start : f.start = k.start
  finish : f.finish = k.finish
  projects : Json.labels f.projects = k.projects
  apps : Json.labels f.apps = k.apps
  minSeconds : f.minSeconds.label = .ok k.minSeconds
  maxSeconds : f.maxSeconds.label = .ok k.maxSeconds
  excludeIdle : f.excludeIdle = k.excludeIdle
  keyed : f.IsKeyed

theorem IsKeyed.matches {f : Panel} (h : f.IsKeyed) {k : PanelKey} (hk : f.key = .ok k) :
    f.Matches k := by
  obtain ⟨least, hleast, hk⟩ := bind_eq_ok.mp hk
  obtain ⟨greatest, hgreatest, hk⟩ := bind_eq_ok.mp hk
  cases hk
  exact ⟨rfl, rfl, rfl, rfl, hleast, hgreatest, rfl, h⟩

/-! ## 4. Bounds -/

/-- A label as a number keeps its place, the zero from below included. -/
theorem place_ofQuantity {q q' : Quantity} (h : Label.ofQuantity q = .number q') :
    q'.place = q.place := by
  unfold Label.ofQuantity at h
  obtain rfl := Label.number.inj h
  split
  next hzero =>
    cases q with
    | finite x =>
        have hx : x = 0 := of_decide_eq_true hzero
        rw [hx]
    | negZero => rfl
    | infinite negative => cases hzero
    | undefined => cases hzero
  next => rfl

/-- What a bound with a label asks of a number. -/
def boundOf (symbol : String) (holds : Amount → Bool) : Label → Except Fault Bool
  | .nothing => .ok true
  | .number q => .ok (holds (.real q))
  | .text _ => .error (.unordered symbol "float" "str")

/-- **A bound is looked at through its label only**, if it matters only where an amount lies. -/
theorem keepsTo_of_label {bound : Json} {l : Label} (h : bound.label = .ok l) (symbol : String)
    {holds : Amount → Bool}
    (hholds : ∀ a b : Amount, a.exactly.place = b.exactly.place → holds a = holds b) :
    keepsTo symbol holds bound = boundOf symbol holds l := by
  cases bound with
  | null =>
      cases h
      rfl
  | bool b =>
      cases h
      refine congrArg Except.ok (hholds _ _ ?_)
      cases b with
      | _ => rfl
  | int n =>
      cases h
      exact congrArg Except.ok (hholds _ _ rfl)
  | real q =>
      obtain rfl : Label.ofQuantity q = l := Except.ok.inj h
      refine congrArg Except.ok (hholds _ _ ?_)
      exact (place_ofQuantity (q := q) rfl).symm
  | str t =>
      cases h
      rfl
  | arr items => cases h
  | obj members => cases h

theorem le_congr_left (length : Amount) (a b : Amount) (h : a.exactly.place = b.exactly.place) :
    a.le length = b.le length := by
  unfold Amount.le Quantity.le Quantity.lt Quantity.same
  rw [h]

theorem le_congr_right (length : Amount) (a b : Amount) (h : a.exactly.place = b.exactly.place) :
    length.le a = length.le b := by
  unfold Amount.le Quantity.le Quantity.lt Quantity.same
  rw [h]

/-! ## 5. Plans -/

namespace Matches

variable {f f' : Panel} {k : PanelKey}

theorem length_projects (h : f.Matches k) : f.projects.length = k.projects.length := by
  rw [← h.projects, Json.length_labels h.keyed.projects]

theorem length_apps (h : f.Matches k) : f.apps.length = k.apps.length := by
  rw [← h.apps, Json.length_labels h.keyed.apps]

/-- **Panels with the same key are searched on the same path.** -/
theorem path_eq (h : f.Matches k) (h' : f'.Matches k) (q : Text) :
    Plan.path q f = Plan.path q f' := by
  unfold Plan.path Plan.isFast
  rw [h.length_projects, h.length_apps, h'.length_projects, h'.length_apps]

/-- **A search costs the same for panels with the same key.** -/
theorem complexity_eq (h : f.Matches k) (h' : f'.Matches k) (q : Text) (records : Int) :
    Plan.complexity q f records = Plan.complexity q f' records := by
  unfold Plan.complexity Plan.isWide
  rw [h.length_projects, h.length_apps, h'.length_projects, h'.length_apps]

end Matches

end Panel

end Worklog
