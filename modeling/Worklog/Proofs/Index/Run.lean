import Worklog.Proofs.Index.Answers

/-!
# Runs of operations on an index

An index is built, added to, taken from and cleared in any order. `Index.run` carries out a list of
operations; `Index.survivors` says, without an index, which records are left: the last version
filed under each key that was not taken out since.

* `Index.Holds.run`: an index after a run holds the survivors;
* **`Index.run_answers`**: it gives the answers of an index built of them at once, and does not
  care in which order neighbouring operations on different keys came;
* **`Index.run_finds`**: and it finds the survivors that have all content words of a query.

Records are assumed to have texts in their fields (`Record.HasTexts`), as the data model has them.
-/

namespace Worklog

namespace Index

/-! ## 1. Operations -/

/-- An operation on an index, with the moment at which it is carried out. -/
inductive Op where
  /-- Start over with some records, which may repeat a key. -/
  | build (now : Moment) (records : List Record)
  | add (now : Moment) (r : Record)
  /-- Take out a record, which may be unknown. -/
  | remove (now : Moment) (kind : RecordKind) (id : Text)
  | clear

namespace Op

/-- Carries out an operation, and gives the flaw that it met, if it met one. -/
def apply (i : Index) : Op → Index × Option Fault
  | build now records => Index.build i.capacity now records
  | add now r => i.add now r
  | remove now kind id => (i.remove now kind id, none)
  | clear => (i.clear, none)

/-- The roster after an operation. -/
def roster (live : List Record) : Op → List Record
  | build _ records => records.foldl Roster.enter []
  | add _ r => Roster.enter live r
  | remove _ kind id => Roster.strike (kind, id) live
  | clear => []

/-- The records of an operation have texts in their fields. -/
def HasTexts : Op → Prop
  | build _ records => ∀ r ∈ records, r.HasTexts
  | add _ r => r.HasTexts
  | remove _ _ _ => True
  | clear => True

instance : DecidablePred HasTexts
  | build _ records => inferInstanceAs (Decidable (∀ r ∈ records, r.HasTexts))
  | add _ r => inferInstanceAs (Decidable r.HasTexts)
  | remove _ _ _ => isTrue trivial
  | clear => isTrue trivial

/-- The key that an operation is about, if it is about one record. -/
def key? : Op → Option (RecordKind × Text)
  | add _ r => some r.key
  | remove _ kind id => some (kind, id)
  | _ => none

end Op

/-- **Carries out operations** in their order, up to the first that meets a flaw. -/
def run (i : Index) : List Op → Index × Option Fault
  | [] => (i, none)
  | op :: ops =>
    match op.apply i with
    | (i, none) => run i ops
    | flawed => flawed

/-- **The records that survive some operations.** -/
def survivors (ops : List Op) : List Record := ops.foldl Op.roster []

/-! ## 2. What an index holds after a run -/

namespace Holds

variable {i : Index} {live : List Record}

theorem clear (i : Index) : i.clear.Holds [] := .empty i.capacity i.updated

/-- One operation carries the index from roster to roster. -/
theorem apply (h : i.Holds live) (op : Op) (hop : op.HasTexts) :
    (op.apply i).2 = none ∧ (op.apply i).1.Holds (op.roster live) := by
  cases op with
  | build now records => exact Holds.build i.capacity now hop
  | add now r => exact h.add now hop
  | remove now kind id => exact ⟨rfl, h.remove now kind id⟩
  | clear => exact ⟨rfl, .clear i⟩

/-- **An index after a run holds the survivors.** -/
theorem run : ∀ (ops : List Op) {i : Index} {live : List Record}, i.Holds live →
    (∀ op ∈ ops, op.HasTexts) →
    (i.run ops).2 = none ∧ (i.run ops).1.Holds (ops.foldl Op.roster live)
  | [], _, _, h, _ => ⟨rfl, h⟩
  | op :: ops, i, live, h, hops => by
      obtain ⟨hnone, hop⟩ := h.apply op (hops op List.mem_cons_self)
      unfold Index.run
      rw [show op.apply i = ((op.apply i).1, none) from Prod.ext rfl hnone]
      exact run ops hop fun o ho => hops o (List.mem_cons_of_mem op ho)

end Holds

/-! ## 3. Rosters up to their order -/

section Order

variable {live more : List Record} {key k l : RecordKind × Text}

theorem strike_perm (hp : live.Perm more) :
    (Roster.strike key live).Perm (Roster.strike key more) :=
  hp.filter _

theorem enter_perm (hp : live.Perm more) (r : Record) :
    (Roster.enter live r).Perm (Roster.enter more r) :=
  (strike_perm hp).append_right [r]

theorem strike_comm :
    Roster.strike k (Roster.strike l live) = Roster.strike l (Roster.strike k live) := by
  simp only [Roster.strike, List.filter_filter, Bool.and_comm]

theorem strike_enter {r : Record} (h : r.key ≠ k) :
    Roster.strike k (Roster.enter live r) = Roster.enter (Roster.strike k live) r := by
  unfold Roster.enter
  rw [strike_comm, Roster.strike, List.filter_append]
  congr 1
  simp [h]

theorem roster_perm (hp : live.Perm more) (op : Op) : (op.roster live).Perm (op.roster more) := by
  cases op with
  | build now records => exact .refl _
  | add now r => exact enter_perm hp r
  | remove now kind id => exact strike_perm hp
  | clear => exact .refl _

theorem foldl_roster_perm (hp : live.Perm more) (ops : List Op) :
    (ops.foldl Op.roster live).Perm (ops.foldl Op.roster more) := by
  induction ops generalizing live more with
  | nil => exact hp
  | cons op ops ih => exact ih (roster_perm hp op)

/-- **Operations on different keys commute**, up to the order of the roster. -/
theorem roster_comm {a b : Op} (ha : a.key? = some k) (hb : b.key? = some l) (hkl : k ≠ l)
    (live : List Record) : (b.roster (a.roster live)).Perm (a.roster (b.roster live)) := by
  cases a with
  | build now records => cases ha
  | clear => cases ha
  | add now r =>
      have hr : r.key = k := Option.some.inj ha
      subst hr
      cases b with
      | build now records => cases hb
      | clear => cases hb
      | add now s =>
          have hs : s.key = l := Option.some.inj hb
          subst hs
          show (Roster.strike s.key (Roster.enter live r) ++ [s]).Perm
            (Roster.strike r.key (Roster.enter live s) ++ [r])
          rw [strike_enter hkl, strike_enter hkl.symm, Roster.enter, Roster.enter, strike_comm,
            List.append_assoc, List.append_assoc]
          exact List.Perm.append_left _ (List.Perm.swap s r [])
      | remove now kind id =>
          have hl : (kind, id) = l := Option.some.inj hb
          subst hl
          exact .of_eq (strike_enter hkl)
  | remove now kind id =>
      have hk : (kind, id) = k := Option.some.inj ha
      subst hk
      cases b with
      | build now records => cases hb
      | clear => cases hb
      | add now s =>
          have hs : s.key = l := Option.some.inj hb
          subst hs
          exact .of_eq (strike_enter hkl.symm).symm
      | remove now kind' id' => exact .of_eq strike_comm

end Order

/-! ## 4. Answers after a run -/

/-- **After any run of operations the index gives the answers of an index built at once of the
    survivors**, in whatever order they are given; and it makes no difference to the answers if two
    neighbouring operations on different keys change places. -/
theorem run_answers (capacity : Int) (start now : Moment) (ops : List Op)
    (h : ∀ op ∈ ops, op.HasTexts) :
    ∃ i, run (empty capacity start) ops = (i, none) ∧
      (∀ records, records.Perm (survivors ops) →
        ∃ j, build capacity now records = (j, none) ∧ SameAnswers i j) ∧
      ∀ before a b after k l, ops = before ++ a :: b :: after → a.key? = some k →
        b.key? = some l → k ≠ l →
        ∃ j, run (empty capacity start) (before ++ b :: a :: after) = (j, none) ∧
          SameAnswers i j := by
  obtain ⟨hnone, hi⟩ := Holds.run ops (.empty capacity start) h
  refine ⟨_, Prod.ext rfl hnone, fun records hp => ?_, ?_⟩
  · have hkeys : (records.map Record.key).Nodup := (hp.map _).nodup_iff.mpr hi.keys
    have htexts : ∀ r ∈ records, r.HasTexts := fun r hr => hi.texts r (hp.mem_iff.mp hr)
    obtain ⟨j, hbuild, hj⟩ := Holds.build_of_nodup capacity now htexts hkeys
    exact ⟨j, hbuild, hi.sameAnswers hj hp.symm⟩
  · intro before a b after k l e ha hb hkl
    subst e
    have hops : ∀ op ∈ before ++ b :: a :: after, op.HasTexts := fun op hm => h op <| by
      simp only [List.mem_append, List.mem_cons] at hm ⊢
      rcases hm with hm | hm | hm | hm
      · exact Or.inl hm
      · exact Or.inr (Or.inr (Or.inl hm))
      · exact Or.inr (Or.inl hm)
      · exact Or.inr (Or.inr (Or.inr hm))
    obtain ⟨hnone', hj⟩ := Holds.run _ (.empty capacity start) hops
    refine ⟨_, Prod.ext rfl hnone', hi.sameAnswers hj ?_⟩
    simp only [List.foldl_append, List.foldl_cons]
    exact foldl_roster_perm (roster_comm ha hb hkl _) after

/-- A project is filed under another name, an activity is filed, and an unknown record is taken
    out: two projects and an activity were filed, and two records are left. -/
theorem run_answers_renamed :
    ∃ i, run (empty 5 default)
        [.add default (.project ⟨"p1".toList, .str "alpha".toList, .null⟩),
         .add default (.project ⟨"p1".toList, .str "beta".toList, .null⟩),
         .add default (.activity ⟨"a1".toList, .str "Editor".toList, none, none, .null, .null,
           .str "notes on alpha".toList, false⟩),
         .remove default .timeEntry "p1".toList] = (i, none) ∧
      ∃ j, build 5 default
          [.activity ⟨"a1".toList, .str "Editor".toList, none, none, .null, .null,
             .str "notes on alpha".toList, false⟩,
           .project ⟨"p1".toList, .str "beta".toList, .null⟩] = (j, none) ∧
        SameAnswers i j := by
  obtain ⟨i, hi, hsurvivors, -⟩ := run_answers 5 default default
    [.add default (.project ⟨"p1".toList, .str "alpha".toList, .null⟩),
     .add default (.project ⟨"p1".toList, .str "beta".toList, .null⟩),
     .add default (.activity ⟨"a1".toList, .str "Editor".toList, none, none, .null, .null,
       .str "notes on alpha".toList, false⟩),
     .remove default .timeEntry "p1".toList] (by decide)
  exact ⟨i, hi, hsurvivors _ (List.Perm.swap _ _ [])⟩

/-- **After any run of operations a search finds exactly the survivors that have all content words
    of the query**, each word in some field and all of them for each result; a query without
    content words finds nothing. Leads change nothing: on the side of the query, looking up the
    words alone finds the same, and on the side of the records, a look-up finds what has a word
    that contains it. -/
theorem run_finds (capacity : Int) (start : Moment) (ops : List Op)
    (h : ∀ op ∈ ops, op.HasTexts) (kind : RecordKind) (q : Text) :
    ∃ i, run (empty capacity start) ops = (i, none) ∧
      (Term.contentWords q = [] → i.find kind q = []) ∧
      (Term.contentWords q ≠ [] → ∀ id, id ∈ i.find kind q ↔
        ∃ r ∈ survivors ops, r.kind = kind ∧ r.id = id ∧
          ∀ w ∈ Term.contentWords q, r.HasWord w) ∧
      (i.find kind q).Nodup ∧
      (∀ id, id ∈ i.find kind q ↔ id ∈ i.lookupAll kind (Term.contentWords q)) ∧
      ∀ w id, id ∈ i.lookup kind w ↔
        ∃ r ∈ survivors ops, r.kind = kind ∧ r.id = id ∧ r.HasWord w := by
  obtain ⟨hnone, hi⟩ := Holds.run ops (.empty capacity start) h
  have hkey : ∀ (r : Record) id, r.key = (kind, id) ↔ r.kind = kind ∧ r.id = id := fun r id =>
    Prod.ext_iff
  refine ⟨_, Prod.ext rfl hnone, fun hq => ?_, fun hq id => ?_, nodup_find _ kind q, fun id => ?_,
    fun w id => ?_⟩
  · exact List.eq_nil_iff_forall_not_mem.mpr fun id hid => (hi.mem_find.mp hid).1 hq
  · rw [hi.mem_find]
    simp only [hkey, and_assoc, ne_eq, hq, not_false_eq_true, true_and]
    rfl
  · rw [hi.mem_find, hi.mem_lookupAll]
  · rw [hi.mem_lookup]
    simp only [hkey, and_assoc]
    rfl

/-- A project that was renamed is found under its new name and no longer under its old one. -/
theorem run_finds_renamed :
    ∃ i, run (empty 5 default)
        [.add default (.project ⟨"p1".toList, .str "alpha".toList, .null⟩),
         .add default (.project ⟨"p1".toList, .str "Beta Two".toList, .null⟩)] = (i, none) ∧
      "p1".toList ∈ i.find .project "the BET".toList ∧
      "p1".toList ∉ i.find .project "alp".toList := by
  obtain ⟨i, hi, -, hfound, -, -, -⟩ := run_finds 5 default
    [.add default (.project ⟨"p1".toList, .str "alpha".toList, .null⟩),
     .add default (.project ⟨"p1".toList, .str "Beta Two".toList, .null⟩)] (by decide)
    .project "the BET".toList
  obtain ⟨j, hj, -, hlost, -, -, -⟩ := run_finds 5 default
    [.add default (.project ⟨"p1".toList, .str "alpha".toList, .null⟩),
     .add default (.project ⟨"p1".toList, .str "Beta Two".toList, .null⟩)] (by decide)
    .project "alp".toList
  obtain rfl : i = j := congrArg Prod.fst (hi.symm.trans hj)
  have hold : "p1".toList ∉ i.find .project "alp".toList := by
    rw [hlost (by decide)]
    decide
  exact ⟨i, hi, (hfound (by decide) _).mpr (by decide), hold⟩

end Index

end Worklog
