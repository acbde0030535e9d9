import Worklog.Proofs.History.Run
import Worklog.Proofs.Text.Strip

/-!
# The latest queries

A history takes up one query after the other: a known query is moved to the front, and what there is
no room for is dropped at once. Seen from the end that makes no difference to forgetting nothing and
cutting the list once, since a query that was dropped and comes again is new in both:

* `History.latest`: the distinct queries among those that were added, the latest first;
* `take_cons_erase_take`: what is beyond the room does not matter when an item moves to the front;
* `History.entries_add`: so one more query keeps the entries in step with the latest queries;
* **`History.entries_run`**: the entries of every history are the latest queries, as many as there
  is room for.
-/

namespace Worklog

/-! ## 1. Moving to the front -/

section Front

variable {α : Type} [BEq α]

/-- Taking an item out of a beginning of a list leaves one item less of it at most. -/
theorem take_erase_take (a : α) : ∀ (l : List α) (n : Nat),
    ((l.take (n + 1)).erase a).take n = (l.erase a).take n
  | [], _ => by rw [List.take_nil]
  | b :: l, n => by
      rw [List.take_succ_cons, List.erase_cons, List.erase_cons]
      by_cases hb : (b == a) = true
      · rw [if_pos hb, if_pos hb, List.take_take, Nat.min_self]
      · rw [if_neg hb, if_neg hb]
        cases n with
        | zero => rfl
        | succ n => rw [List.take_succ_cons, List.take_succ_cons, take_erase_take a l n]

/-- **An item is moved to the front** of a beginning of a list as it is in the whole list. -/
theorem take_cons_erase_take (a : α) (l : List α) (n : Nat) :
    (a :: (l.take n).erase a).take n = (a :: l.erase a).take n := by
  cases n with
  | zero => rfl
  | succ n => rw [List.take_succ_cons, List.take_succ_cons, take_erase_take]

variable [LawfulBEq α]

theorem eraseDups_filter (p : α → Bool) : ∀ l : List α,
    (l.filter p).eraseDups = l.eraseDups.filter p
  | [] => rfl
  | a :: l => by
      have ih := eraseDups_filter p (l.filter fun b => !b == a)
      rw [List.eraseDups_cons, List.filter_cons, List.filter_cons, ← ih, List.filter_filter]
      by_cases ha : p a = true
      · rw [if_pos ha, if_pos ha, List.eraseDups_cons, List.filter_filter]
        simp only [Bool.and_comm]
      · rw [if_neg ha, if_neg ha]
        -- what the test refuses need not be told apart from `a`
        refine congrArg List.eraseDups (List.filter_congr fun b _ => ?_)
        by_cases hb : (b == a) = true
        · rw [eq_of_beq hb]
          simp [ha]
        · simp [hb]
  termination_by l => l.length
  decreasing_by
    exact Nat.lt_succ_of_le (List.length_filter_le _ _)

/-- A further item comes before the distinct items, and is taken out of them. -/
theorem eraseDups_cons_eq (a : α) (l : List α) :
    (a :: l).eraseDups = a :: l.eraseDups.erase a := by
  rw [List.eraseDups_cons, eraseDups_filter, (nodup_eraseDups l).erase_eq_filter]
  rfl

end Front

namespace History

variable {h : History}

/-! ## 2. The latest queries -/

/-- **The latest of some queries**: without the blanks around them and without those that are blank,
    the last one first, and each of them once, where it comes first. -/
def latest (queries : List Text) : List Text :=
  ((queries.map Text.strip).filter fun q => !q.isEmpty).reverse.eraseDups

theorem latest_concat (queries : List Text) (q : Text) : latest (queries ++ [q]) =
    if (Text.strip q).isEmpty then latest queries
    else Text.strip q :: (latest queries).erase (Text.strip q) := by
  unfold latest
  rw [List.map_append, List.filter_append, List.reverse_append]
  split
  next hempty => simp [hempty]
  next hempty => simp [hempty, eraseDups_cons_eq]

/-- The latest queries have no blanks around them, and none of them is blank. -/
theorem mem_latest {queries : List Text} {q : Text} (hq : q ∈ latest queries) :
    q ≠ [] ∧ Text.strip q = q := by
  unfold latest at hq
  rw [List.mem_eraseDups, List.mem_reverse, List.mem_filter] at hq
  obtain ⟨hmem, hne⟩ := hq
  obtain ⟨t, -, rfl⟩ := List.mem_map.mp hmem
  exact ⟨by simpa using hne, Text.strip_strip t⟩

/-- The query that a use adds, if it adds one. -/
def Use.query? : Use → Option Text
  | .add query => some query
  | _ => none

/-- Whether a use leaves the entries that are there, but for a query it adds. -/
def Use.IsLasting : Use → Prop
  | .clear => False
  | .load => False
  | _ => True

/-- **A history starts from no queries**: it has none yet, or they were just forgotten. -/
inductive StartsEmpty (h : History) : List Use → Prop where
  | new (hentries : h.entries = []) : StartsEmpty h []
  | forgotten (before : List Use) : StartsEmpty h (before ++ [.clear])

/-! ## 3. One use -/

theorem persist_eq (h : History) : h.persist.entries = h.entries ∧ h.persist.limit = h.limit := by
  unfold persist
  split <;> exact ⟨rfl, rfl⟩

theorem limit_load {after : History} (hload : h.load = .ok after) : after.limit = h.limit := by
  unfold load at hload
  split at hload
  case h_3 => cases hload
  case h_5 =>
    obtain ⟨loaded, hloaded, hsaved⟩ := bind_eq_ok.mp hload
    obtain ⟨items, -, hloaded⟩ := bind_eq_ok.mp hloaded
    obtain ⟨documents, -, hsaved⟩ := bind_eq_ok.mp hsaved
    obtain ⟨searches, -, hsaved⟩ := bind_eq_ok.mp hsaved
    cases hloaded
    cases hsaved
    rfl
  all_goals
    cases hload
    rfl

theorem limit_loadedSoFar (h : History) : h.loadedSoFar.limit = h.limit := by
  unfold loadedSoFar
  split
  · split
    next loaded hloaded =>
      obtain ⟨items, -, hloaded⟩ := bind_eq_ok.mp hloaded
      cases hloaded
      rfl
    next => rfl
  · rfl

/-- **What a use leaves alone**: the limit, and the entries unless it adds a query, forgets all of
    them or reads others. -/
theorem apply_spec (h : History) (u : Use) : (u.apply h).1.limit = h.limit ∧
    (u.IsLasting → u.query? = none → (u.apply h).1.entries = h.entries) := by
  cases u with
  | add query =>
      refine ⟨?_, fun _ hnone => nomatch hnone⟩
      show (h.add query).limit = h.limit
      unfold add
      dsimp only
      split
      · rfl
      · exact (persist_eq _).2
  | clear => exact ⟨(persist_eq _).2, fun hlasting => hlasting.elim⟩
  | save id name query panel now =>
      obtain ⟨hentries, hlimit⟩ := persist_eq _
      exact ⟨hlimit, fun _ _ => hentries⟩
  | delete id =>
      show (h.delete id).1.limit = h.limit ∧ (_ → _ → (h.delete id).1.entries = h.entries)
      unfold delete
      dsimp only
      split
      · exact ⟨rfl, fun _ _ => rfl⟩
      · obtain ⟨hentries, hlimit⟩ := persist_eq _
        exact ⟨hlimit, fun _ _ => hentries⟩
  | touch now position =>
      unfold Use.apply
      dsimp only
      split
      next after s htouch =>
        obtain ⟨found, -, hdone⟩ := bind_eq_ok.mp htouch
        cases hdone
        obtain ⟨hentries, hlimit⟩ := persist_eq _
        exact ⟨hlimit, fun _ _ => hentries⟩
      next => exact ⟨rfl, fun _ _ => rfl⟩
  | load =>
      refine ⟨?_, fun hlasting => hlasting.elim⟩
      unfold Use.apply
      dsimp only
      split
      next after hload =>
        have hlimit := limit_load hload
        exact hlimit
      next => exact limit_loadedSoFar _

/-- What there is room for among the latest of some queries. -/
def Shows (h : History) (queries : List Text) : Prop :=
  h.entries = (front h.limit (latest queries)).map Json.str

theorem erase_map_str (q : Text) (l : List Text) :
    (l.map Json.str).erase (.str q) = (l.erase q).map Json.str := by
  induction l with
  | nil => rfl
  | cons t l ih =>
      rw [List.map_cons, List.erase_cons, List.erase_cons, ih]
      by_cases ht : t = q
      · simp [ht]
      · have hstr : Json.str t ≠ Json.str q := fun e => ht (Json.str.inj e)
        simp [ht, hstr]

/-- **One more query** comes to the front of the entries as it does among the latest queries, no
    matter what was dropped before. -/
theorem entries_add (hlimit : 0 ≤ h.limit) {queries : List Text} (hs : h.Shows queries)
    (q : Text) : (h.add q).Shows (queries ++ [q]) := by
  unfold Shows add
  rw [latest_concat]
  dsimp only
  split
  next => exact hs
  next =>
    obtain ⟨hentries, hlimit'⟩ := persist_eq
      { h with entries := withEntry h.limit h.entries (Text.strip q) }
    rw [hentries, hlimit']
    dsimp only
    unfold withEntry front
    unfold Shows front at hs
    rw [if_pos hlimit] at hs ⊢
    rw [if_pos hlimit, hs, erase_map_str, ← List.map_cons, ← List.map_take, take_cons_erase_take]

/-- A use that neither forgets nor reads queries leaves the latest ones, and its own if it adds
    one. -/
theorem Shows.apply (hlimit : 0 ≤ h.limit) {queries : List Text} (hs : h.Shows queries) {u : Use}
    (hu : u.IsLasting) : (u.apply h).1.Shows (queries ++ u.query?.toList) := by
  obtain ⟨hlimit', hentries⟩ := apply_spec h u
  have hkeep : u.query? = none → (u.apply h).1.Shows (queries ++ []) := by
    intro hnone
    unfold Shows
    rw [hentries hu hnone, hlimit', List.append_nil]
    exact hs
  cases u with
  | add q => exact entries_add hlimit hs q
  | _ => exact hkeep rfl

/-! ## 4. Runs -/

theorem run_append (h : History) (us vs : List Use) : run h (us ++ vs) = run (run h us) vs :=
  List.foldl_append

theorem limit_run (us : List Use) : ∀ h : History, (run h us).limit = h.limit := by
  induction us with
  | nil => exact fun _ => rfl
  | cons u us ih => exact fun h => (ih _).trans (apply_spec h u).1

/-- The entries stay in step with the latest queries. -/
theorem Shows.run {us : List Use} (hus : ∀ u ∈ us, u.IsLasting) : ∀ {h : History},
    0 ≤ h.limit → ∀ {queries : List Text}, h.Shows queries →
    (run h us).Shows (queries ++ us.filterMap Use.query?) := by
  induction us with
  | nil =>
      intro h _ queries hs
      rw [List.filterMap_nil, List.append_nil]
      exact hs
  | cons u us ih =>
      intro h hlimit queries hs
      have hstep := hs.apply hlimit (hus u List.mem_cons_self)
      have hrest := ih (fun v hv => hus v (List.mem_cons_of_mem u hv))
        (by rwa [(apply_spec h u).1]) hstep
      have hqueries : (u :: us).filterMap Use.query? =
          u.query?.toList ++ us.filterMap Use.query? := by
        cases hq : u.query? <;> simp [hq]
      rw [hqueries, ← List.append_assoc]
      exact hrest

theorem StartsEmpty.shows {before : List Use} (hstart : h.StartsEmpty before) :
    (History.run h before).Shows [] := by
  have hentries : (History.run h before).entries = [] := by
    cases hstart with
    | new hentries => exact hentries
    | forgotten before =>
        rw [run_append]
        exact (persist_eq _).1
  unfold Shows
  rw [hentries]
  exact (congrArg (List.map Json.str) (front_nil _)).symm

/-- The entries after uses that start from no queries. -/
theorem entries_eq (hlimit : 0 ≤ h.limit) {before after : List Use}
    (hstart : h.StartsEmpty before) (hafter : ∀ u ∈ after, u.IsLasting) :
    (run h (before ++ after)).entries =
      (front h.limit (latest (after.filterMap Use.query?))).map Json.str := by
  have hshows := hstart.shows.run hafter (by rwa [limit_run])
  rw [← run_append] at hshows
  unfold Shows at hshows
  rw [limit_run] at hshows
  exact hshows

/-- **The entries are the latest queries.** Let a history have any limit, any state file and any
    saved searches, and let it have no queries yet, or have forgotten those it had. Let it be used
    in any way that neither forgets the queries nor reads others from the file, so that queries are
    added, and searches saved, deleted and used. Then its entries are the first of the latest
    queries, as many as the limit says. So no entry occurs twice, none is blank or has blanks around
    it, and there are not more of them than the limit says. And with a greater limit, up to one that
    drops nothing, the entries would have been the same, cut once at the end. -/
theorem entries_run (h : History) (hlimit : 0 ≤ h.limit) (before after : List Use)
    (hstart : h.StartsEmpty before) (hafter : ∀ u ∈ after, u.IsLasting) :
    let entries := (run h (before ++ after)).entries
    entries = ((latest (after.filterMap Use.query?)).take h.limit.toNat).map Json.str ∧
      entries.Nodup ∧ (∀ v ∈ entries, ∃ q, v = .str q ∧ q ≠ [] ∧ Text.strip q = q) ∧
      (entries.length : Int) ≤ h.limit ∧
      ∀ limit, h.limit ≤ limit →
        entries = front h.limit (run { h with limit } (before ++ after)).entries := by
  intro entries
  have htake : ∀ l : List Text, front h.limit l = l.take h.limit.toNat := fun _ => if_pos hlimit
  have hentries : entries =
      ((latest (after.filterMap Use.query?)).take h.limit.toNat).map Json.str := by
    rw [← htake]
    exact entries_eq hlimit hstart hafter
  refine ⟨hentries, ?_, ?_, ?_, ?_⟩
  · rw [hentries]
    have hnodup : (latest (after.filterMap Use.query?)).Nodup := nodup_eraseDups _
    exact (hnodup.sublist (List.take_sublist _ _)).map fun _ _ => Json.str.inj
  · intro v hv
    rw [hentries] at hv
    obtain ⟨q, hq, rfl⟩ := List.mem_map.mp hv
    exact ⟨q, rfl, mem_latest (List.mem_of_mem_take hq)⟩
  · rw [hentries, List.length_map, List.length_take]
    omega
  · intro limit hmore
    have hstart' : StartsEmpty { h with limit } before := by
      cases hstart with
      | new hempty => exact .new hempty
      | forgotten before => exact .forgotten before
    have hlimit' : 0 ≤ limit := by omega
    rw [entries_eq (h := { h with limit }) hlimit' hstart' hafter, hentries]
    unfold front
    dsimp only
    rw [if_pos hlimit, if_pos hlimit', ← List.map_take, List.take_take,
      Nat.min_eq_left (Int.toNat_le_toNat hmore)]

/-- Uses after which a history holds its first query, ... -/
def earlierUses : List Use := [.add "draft".toList, .load, .clear]

/-- ... and then five queries are added, one of them blank and one of them twice, where the first
    one was dropped in between for lack of room. -/
def laterUses : List Use :=
  [.add "invoice".toList, .add " report ".toList, .add "\t".toList,
    .save ['1'] "Bills".toList "invoice".toList .blank default, .add "mail".toList,
    .add "invoice ".toList]

/-- With room for two queries, the one that was dropped and added again is the latest. -/
theorem entries_run_dropped_again :
    (run (empty 2 .missing) (earlierUses ++ laterUses)).entries =
      [.str "invoice".toList, .str "mail".toList] ∧
    (run (empty 3 .missing) (earlierUses ++ laterUses)).entries =
      [.str "invoice".toList, .str "mail".toList, .str "report".toList] := by
  have hlasting : ∀ u ∈ laterUses, u.IsLasting := by
    simp [laterUses, Use.IsLasting]
  obtain ⟨hentries, -⟩ := entries_run (empty 2 .missing) (by decide) earlierUses
    laterUses (.forgotten [.add "draft".toList, .load]) hlasting
  have hlatest : latest (laterUses.filterMap Use.query?) =
      ["invoice".toList, "mail".toList, "report".toList] := by decide +kernel
  rw [hlatest] at hentries
  refine ⟨hentries, ?_⟩
  obtain ⟨hentries', -⟩ := entries_run (empty 3 .missing) (by decide) earlierUses
    laterUses (.forgotten [.add "draft".toList, .load]) hlasting
  rw [hlatest] at hentries'
  exact hentries'

end History

end Worklog
