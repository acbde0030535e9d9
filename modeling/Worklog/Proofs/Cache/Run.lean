import Mathlib.Data.Finset.Card
import Worklog.Proofs.Cache.Shelf

/-!
# Runs of a cache

A cache is used in any order while time passes: results are looked up and kept, what has expired is
dropped, and everything is forgotten. What is looked up can be told from what was done, without a
cache. Imagine a hoard that takes everything, has room for everything and in which nothing expires;
what lasts in the cache are the latest of what lasts in the hoard.

* `Cache.Use`, `Cache.after`, `Cache.hoard`: runs of a cache, and what a hoard would have of them;
* **`Cache.Keeps.apply`**: each use keeps cache and hoard in agreement;
* `Cache.hoard_behind`, `Cache.exists_of_mem_hoard`: what stands in a hoard, and what behind it;
* **`Cache.run_keeps`**: when results are found that were kept before.
-/

namespace Worklog

namespace Cache

/-! ## 1. Uses -/

/-- **What may be done with a cache**, and that time passes. -/
inductive Use where
  | get (key : CacheKey)
  | put (key : CacheKey) (results : Results)
  | invalidate (d : Disturbance)
  | clear
  | cleanup
  | wait (seconds : Rat)

namespace Use

/-- The seconds that pass with a use. -/
def seconds : Use → Rat
  | wait seconds => seconds
  | _ => 0

/-- The key under which results are kept, if any are. -/
def key? : Use → Option CacheKey
  | put key _ => some key
  | _ => none

/-- Whether everything is forgotten. -/
def isWipe : Use → Bool
  | invalidate (.records _) => true
  | clear => true
  | _ => false

/-- Whether results that were kept under a key are neither replaced nor forgotten. -/
def Spares (key : CacheKey) (u : Use) : Prop := u.key? ≠ some key ∧ u.isWipe = false

/-- What a use leaves of a cache. -/
def apply (now : Rat) (c : Cache) : Use → Cache
  | get key => (c.get .exact (.finite now) key).1
  | put key results => c.put .exact (.finite now) key results
  | invalidate d => c.invalidate d
  | clear => c.clear
  | cleanup => c.cleanup .exact (.finite now)
  | wait _ => c

/-- What a use leaves of a shelf. -/
def applyShelf (now : Rat) (s : Shelf) : Use → Shelf
  | get key => (s.get .exact (.finite now) key).1
  | put key results => s.put .exact (.finite now) key results
  | invalidate d => s.invalidate d
  | clear => s.clear
  | cleanup => s.cleanup .exact (.finite now)
  | wait _ => s

/-- What a use leaves of a hoard: nothing goes that is not replaced or forgotten. -/
def applyHoard (now : Rat) (es : List CacheEntry) (u : Use) : List CacheEntry :=
  match u with
  | put key results => without key es ++ [⟨key, results, .finite now⟩]
  | u => if u.isWipe then [] else es

end Use

/-- The seconds that pass with some uses. -/
def time (us : List Use) : Rat := (us.map Use.seconds).sum

/-- **A cache after some uses**, of which the first is now. -/
def after (now : Rat) (c : Cache) : List Use → Cache
  | [] => c
  | u :: us => after (now + u.seconds) (u.apply now c) us

/-- A hoard after some uses, of which the first is now. -/
def hoard (now : Rat) (es : List CacheEntry) : List Use → List CacheEntry
  | [] => es
  | u :: us => hoard (now + u.seconds) (u.applyHoard now es) us

/-- A shelf after some uses, of which the first is now. -/
def shelved (now : Rat) (s : Shelf) : List Use → Shelf
  | [] => s
  | u :: us => shelved (now + u.seconds) (u.applyShelf now s) us

theorem time_cons (u : Use) (us : List Use) : time (u :: us) = u.seconds + time us := by
  unfold time
  rw [List.map_cons, List.sum_cons]

theorem time_append (us vs : List Use) : time (us ++ vs) = time us + time vs := by
  unfold time
  rw [List.map_append, List.sum_append]

theorem hoard_append (vs : List Use) : ∀ (us : List Use) (now : Rat) (es : List CacheEntry),
    hoard now es (us ++ vs) = hoard (now + time us) (hoard now es us) vs
  | [], now, es => by
      show _ = hoard (now + 0) es vs
      rw [add_zero]
      rfl
  | u :: us, now, es => by
      show hoard (now + u.seconds) _ (us ++ vs) = _
      rw [hoard_append vs us, time_cons, add_assoc]
      rfl

/-! ## 2. Cache and hoard -/

/-- **A cache keeps of a hoard** the latest of what lasts. -/
structure Keeps (now : Rat) (c : Cache) (es : List CacheEntry) : Prop where
  row : IsRow now c.entries
  hoarded : IsRow now es
  room : c.entries.length ≤ c.capacity.toNat
  lasts : lasting c.lifetime now c.entries = (lasting c.lifetime now es).rtake c.capacity.toNat

variable {now : Rat} {c : Cache} {es : List CacheEntry} {key : CacheKey}

theorem find?_eq_some_iff (h : (c.entries.map (·.key)).Nodup) {e : CacheEntry} :
    c.find? key = some e ↔ e ∈ c.entries ∧ e.key = key := by
  have hfound : ∀ {d}, c.find? key = some d → d ∈ c.entries ∧ d.key = key := fun hfind =>
    ⟨List.mem_of_find?_eq_some hfind, by simpa using List.find?_some hfind⟩
  refine ⟨hfound, fun ⟨hmem, hkey⟩ => ?_⟩
  cases hfind : c.find? key with
  | none => exact absurd hkey (by simpa using List.find?_eq_none.mp hfind e hmem)
  | some d =>
      obtain ⟨hd, hdkey⟩ := hfound hfind
      rw [List.inj_on_of_nodup_map h hd hmem (hdkey.trans hkey.symm)]

/-- **What is looked up is what lasts under the key.** -/
theorem get_eq_some_iff (h : (c.entries.map (·.key)).Nodup) {r : Results} :
    (c.get .exact (.finite now) key).2 = some r ↔
      ∃ e ∈ lasting c.lifetime now c.entries, e.key = key ∧ e.results = r := by
  unfold get
  cases hfind : c.find? key with
  | none =>
      constructor
      · intro hr
        cases hr
      · rintro ⟨e, he, hkey, -⟩
        have hsome := (find?_eq_some_iff h).mpr ⟨(mem_lasting.mp he).1, hkey⟩
        rw [hfind] at hsome
        cases hsome
  | some d =>
      obtain ⟨hd, hkey⟩ := (find?_eq_some_iff h).mp hfind
      have hunique : ∀ e ∈ c.entries, e.key = key → e = d := fun e he hekey =>
        List.inj_on_of_nodup_map h he hd (hekey.trans hkey.symm)
      dsimp only
      cases hexpired : c.isExpired .exact (.finite now) d with
      | true =>
          constructor
          · intro hr
            cases hr
          · rintro ⟨e, he, hekey, -⟩
            obtain ⟨hmem, hlasts⟩ := mem_lasting.mp he
            rw [hunique e hmem hekey] at hlasts
            exact absurd (hexpired.symm.trans hlasts) (by decide)
      | false =>
          refine ⟨fun hr => ⟨d, mem_lasting.mpr ⟨hd, hexpired⟩, hkey, Option.some.inj hr⟩, ?_⟩
          rintro ⟨e, he, hekey, rfl⟩
          rw [hunique e (mem_lasting.mp he).1 hekey]
          rfl

/-- The entries under other keys when results are kept: cleaned up if there is no room. -/
def others (now : Rat) (c : Cache) (key : CacheKey) : List CacheEntry :=
  if (c.drop key).isFull then lasting c.lifetime now (without key c.entries)
  else without key c.entries

/-- **What a cache has after results were kept**: of the others the latest, and the new entry. -/
theorem put_eq (hc : 1 ≤ c.capacity) (r : Results) :
    c.put .exact (.finite now) key r = { c with
      entries := (others now c key).rtake (c.capacity.toNat - 1) ++ [⟨key, r, .finite now⟩] } := by
  have hroom : ∀ es : List CacheEntry, makeRoom { c with entries := es } =
      { c with entries := es.rtake (c.capacity.toNat - 1) } := fun es => by
    have hcount : es.length + 1 - c.capacity.toNat = es.length - (c.capacity.toNat - 1) := by omega
    unfold makeRoom size List.rtake
    dsimp only
    rw [hcount]
  have hclean : (if (c.drop key).isFull then (c.drop key).cleanup .exact (.finite now)
      else c.drop key) = { c with entries := others now c key } := by
    unfold others
    split
    · rfl
    · rfl
  have hcapacity : ¬ c.capacity ≤ 0 := by omega
  unfold put
  dsimp only
  rw [hclean, hroom]
  exact if_neg hcapacity

/-- Only what has expired is cleaned up, and it stands in front. -/
theorem others_suffix (h : IsRow now c.entries) (key : CacheKey) :
    others now c key <:+ without key c.entries := by
  unfold others
  split
  · have hrow : IsRow now (without key c.entries) := h.sublist List.filter_sublist
    obtain ⟨gone, hsplit, -⟩ := exists_expired_append c.lifetime hrow
    exact ⟨gone, hsplit.symm⟩
  · exact List.suffix_rfl

theorem lasting_others (h : IsRow now c.entries) (key : CacheKey) :
    lasting c.lifetime now (others now c key) =
      lasting c.lifetime now (without key c.entries) := by
  unfold others
  split
  · exact lasting_lasting (h.sublist List.filter_sublist) (le_refl now)
  · rfl

/-- Results that are kept are the latest of what lasts in two rows, if the rows agreed before. Where
    nothing lasts at all, they do not last either. -/
theorem lasting_concat {lifetime : Amount} {xs ys : List CacheEntry} {n : Nat}
    (hys : IsRow now ys) (hsame : lasting lifetime now xs = (lasting lifetime now ys).rtake n)
    (key : CacheKey) (r : Results) :
    lasting lifetime now (xs ++ [⟨key, r, .finite now⟩]) =
      (lasting lifetime now (ys ++ [⟨key, r, .finite now⟩])).rtake (n + 1) := by
  rw [lasting_append, lasting_append, hsame]
  cases hnew : lifetime.lt (.real (Precision.exact.minus (.finite now) (.finite now))) with
  | false =>
      have hstays : lasting lifetime now [⟨key, r, .finite now⟩] = [⟨key, r, .finite now⟩] :=
        List.filter_cons_of_pos (by rw [hnew]; rfl)
      have hone : [(⟨key, r, .finite now⟩ : CacheEntry)].length ≤ n + 1 := Nat.le_add_left 1 n
      rw [hstays, rtake_append, rtake_of_length_le hone]
      rfl
  | true =>
      have hgone : lasting lifetime now [⟨key, r, .finite now⟩] = [] :=
        List.filter_cons_of_neg (by rw [hnew]; decide)
      rw [hgone, hys.lasting_eq_nil hnew, List.rtake_nil, List.append_nil, List.rtake_nil]

namespace Keeps

theorem empty (now : Rat) (capacity : Int) (lifetime : Amount) :
    Keeps now (Cache.empty capacity lifetime) [] :=
  ⟨.nil now, .nil now, Nat.zero_le _, (List.rtake_nil ..).symm⟩

/-- A cache from which nothing but expired entries was taken keeps what it kept. -/
theorem sublist (h : Keeps now c es) {left : List CacheEntry} (hs : left.Sublist c.entries)
    (hl : lasting c.lifetime now left = lasting c.lifetime now c.entries) :
    Keeps now { c with entries := left } es :=
  ⟨h.row.sublist hs, h.hoarded, hs.length_le.trans h.room, hl.trans h.lasts⟩

theorem get (h : Keeps now c es) (key : CacheKey) :
    Keeps now (c.get .exact (.finite now) key).1 es := by
  unfold Cache.get
  cases hfind : c.find? key with
  | none => exact h
  | some d =>
      dsimp only
      split
      next hexpired =>
        refine h.sublist List.filter_sublist ?_
        -- the only entry under the key has expired
        obtain ⟨hd, hkey⟩ := (find?_eq_some_iff h.row.nodup).mp hfind
        show lasting c.lifetime now (without key c.entries) = _
        rw [lasting_without]
        refine without_of_notMem fun hm => ?_
        obtain ⟨e, he, hekey⟩ := List.mem_map.mp hm
        obtain ⟨hmem, hlasts⟩ := mem_lasting.mp he
        rw [List.inj_on_of_nodup_map h.row.nodup hmem hd (hekey.trans hkey.symm)] at hlasts
        exact absurd (hexpired.symm.trans hlasts) (by decide)
      next => exact h

theorem cleanup (h : Keeps now c es) : Keeps now (c.cleanup .exact (.finite now)) es :=
  h.sublist List.filter_sublist (lasting_lasting h.row (le_refl now))

/-- Time passes for cache and hoard alike. -/
theorem wait (h : Keeps now c es) {seconds : Rat} (hs : 0 ≤ seconds) :
    Keeps (now + seconds) c es := by
  have hle : now ≤ now + seconds := le_add_of_nonneg_right hs
  refine ⟨h.row.wait hle, h.hoarded.wait hle, h.room, ?_⟩
  have hlatest : IsRow now (es.rtake c.capacity.toNat) := h.hoarded.sublist (List.drop_sublist _ _)
  rw [← lasting_lasting h.row hle, h.lasts, ← rtake_lasting h.hoarded,
    lasting_lasting hlatest hle, rtake_lasting (h.hoarded.wait hle)]

/-- **What is kept is the latest entry** of cache and hoard. -/
theorem put (h : Keeps now c es) (hc : 1 ≤ c.capacity) (key : CacheKey) (r : Results) :
    Keeps now (c.put .exact (.finite now) key r)
      (without key es ++ [⟨key, r, .finite now⟩]) := by
  obtain ⟨n, hn⟩ : ∃ n, c.capacity.toNat = n + 1 := ⟨c.capacity.toNat - 1, by omega⟩
  have hothers : IsRow now (without key c.entries) := h.row.sublist List.filter_sublist
  have hhoard : IsRow now (without key es) := h.hoarded.sublist List.filter_sublist
  have hsub := (others_suffix h.row key).sublist
  have hlatest : ((others now c key).rtake n).Sublist (without key c.entries) :=
    (List.drop_sublist _ _).trans hsub
  have hleft : lasting c.lifetime now ((others now c key).rtake n) =
      (lasting c.lifetime now (without key es)).rtake n := by
    have hnodup : ((lasting c.lifetime now es).map (·.key)).Nodup :=
      (h.hoarded.sublist List.filter_sublist).nodup
    rw [rtake_lasting (hothers.sublist hsub), lasting_others h.row, lasting_without, h.lasts, hn,
      rtake_without hnodup, ← lasting_without]
  rw [put_eq hc, hn, Nat.add_sub_cancel]
  refine ⟨?_, hhoard.concat (notMem_without key es) r, ?_, ?_⟩
  · exact (hothers.sublist hlatest).concat
      (fun hm => notMem_without key c.entries ((hlatest.map _).subset hm)) r
  · show ((others now c key).rtake n ++ [_]).length ≤ c.capacity.toNat
    rw [List.length_append, length_rtake, List.length_singleton]
    omega
  · show _ = List.rtake _ c.capacity.toNat
    rw [hn]
    exact lasting_concat hhoard hleft key r

theorem wipe (now : Rat) (c : Cache) : Keeps now c.clear [] :=
  ⟨.nil now, .nil now, Nat.zero_le _, (List.rtake_nil ..).symm⟩

/-- **Each use keeps cache and hoard in agreement.** -/
theorem apply (h : Keeps now c es) (hc : 1 ≤ c.capacity) {u : Use} (hu : 0 ≤ u.seconds) :
    Keeps (now + u.seconds) (u.apply now c) (u.applyHoard now es) := by
  suffices hnow : Keeps now (u.apply now c) (u.applyHoard now es) from hnow.wait hu
  cases u with
  | get key => exact h.get key
  | put key r => exact h.put hc key r
  | invalidate d =>
      cases d with
      | records kind => exact .wipe now c
      | index => exact h
  | clear => exact .wipe now c
  | cleanup => exact h.cleanup
  | wait seconds => exact h

end Keeps

theorem capacity_apply (hc : 1 ≤ c.capacity) (u : Use) :
    (u.apply now c).capacity = c.capacity ∧ (u.apply now c).lifetime = c.lifetime := by
  cases u with
  | get key =>
      unfold Use.apply get
      dsimp only
      split
      · split
        · exact ⟨rfl, rfl⟩
        · exact ⟨rfl, rfl⟩
      · exact ⟨rfl, rfl⟩
  | put key r =>
      show (c.put .exact (.finite now) key r).capacity = _ ∧ (c.put _ _ _ _).lifetime = _
      rw [put_eq hc]
      exact ⟨rfl, rfl⟩
  | invalidate d =>
      cases d with
      | records kind => exact ⟨rfl, rfl⟩
      | index => exact ⟨rfl, rfl⟩
  | clear => exact ⟨rfl, rfl⟩
  | cleanup => exact ⟨rfl, rfl⟩
  | wait seconds => exact ⟨rfl, rfl⟩

/-! ## 3. Runs -/

/-- **Cache and hoard agree after any run.** -/
theorem Keeps.after : ∀ (us : List Use) {now : Rat} {c : Cache} {es : List CacheEntry},
    Keeps now c es → 1 ≤ c.capacity → (∀ u ∈ us, 0 ≤ u.seconds) →
      Keeps (now + time us) (after now c us) (hoard now es us) ∧
        (Cache.after now c us).capacity = c.capacity ∧ (Cache.after now c us).lifetime = c.lifetime
  | [], now, c, es, h, _, _ => by
      refine ⟨?_, rfl, rfl⟩
      show Keeps (now + 0) c es
      rwa [add_zero]
  | u :: us, now, c, es, h, hc, hus => by
      obtain ⟨hcapacity, hlifetime⟩ : (u.apply now c).capacity = c.capacity ∧
          (u.apply now c).lifetime = c.lifetime := capacity_apply hc u
      obtain ⟨hafter, hcapacity', hlifetime'⟩ := Keeps.after us
        (h.apply hc (hus u List.mem_cons_self)) (by rwa [hcapacity])
        fun v hv => hus v (List.mem_cons_of_mem u hv)
      rw [time_cons, ← add_assoc]
      exact ⟨hafter, hcapacity'.trans hcapacity, hlifetime'.trans hlifetime⟩

theorem applyShelf_of (h : (c.entries.map (·.key)).Nodup) (u : Use) :
    u.applyShelf now (Shelf.of c) = Shelf.of (u.apply now c) := by
  cases u with
  | get key => exact congrArg Prod.fst (Shelf.get_of h)
  | put key r => exact Shelf.put_of h r
  | invalidate d =>
      cases d with
      | records kind => rfl
      | index => rfl
  | clear => rfl
  | cleanup => exact Shelf.cleanup_of h
  | wait seconds => rfl

/-- **The two parts of a shelf stay in step** through any run. -/
theorem shelved_of : ∀ (us : List Use) {now : Rat} {c : Cache} {es : List CacheEntry},
    Keeps now c es → 1 ≤ c.capacity → (∀ u ∈ us, 0 ≤ u.seconds) →
      shelved now (Shelf.of c) us = Shelf.of (after now c us)
  | [], _, _, _, _, _, _ => rfl
  | u :: us, now, c, es, h, hc, hus => by
      show shelved (now + u.seconds) (u.applyShelf now (Shelf.of c)) us = _
      rw [applyShelf_of h.row.nodup]
      refine shelved_of us (h.apply hc (hus u List.mem_cons_self)) ?_ fun v hv =>
        hus v (List.mem_cons_of_mem u hv)
      rw [(capacity_apply hc u).1]
      exact hc

/-! ## 4. What stands in a hoard -/

theorem applyHoard_behind {e : CacheEntry} {u : Use} (hu : u.Spares e.key) (now : Rat)
    (xs ys : List CacheEntry) : ∃ xs' ys', u.applyHoard now (xs ++ e :: ys) = xs' ++ e :: ys' ∧
      ∀ k, k ∈ ys'.map (·.key) ↔ k ∈ ys.map (·.key) ∨ u.key? = some k := by
  obtain ⟨hkey, hwipe⟩ := hu
  have hidle : u.key? = none → ∃ xs' ys', (if u.isWipe then [] else xs ++ e :: ys) =
      xs' ++ e :: ys' ∧ ∀ k, k ∈ ys'.map (·.key) ↔ k ∈ ys.map (·.key) ∨ u.key? = some k :=
    fun hnone => ⟨xs, ys, by rw [hwipe]; rfl, fun k => by rw [hnone]; simp⟩
  cases u with
  | put key r =>
      have hne : e.key ≠ key := fun he => hkey (congrArg some he.symm)
      refine ⟨without key xs, without key ys ++ [⟨key, r, .finite now⟩], ?_, fun k => ?_⟩
      · have hstays : without key (e :: ys) = e :: without key ys :=
          List.filter_cons_of_pos (by simpa using hne)
        show without key (xs ++ e :: ys) ++ _ = _
        rw [show without key (xs ++ e :: ys) = without key xs ++ without key (e :: ys) from
          List.filter_append .., hstays, List.append_assoc, List.cons_append]
      · have hothers : k ∈ (without key ys).map (·.key) ↔ k ∈ ys.map (·.key) ∧ k ≠ key := by
          unfold without
          simp only [List.mem_map, List.mem_filter, decide_eq_true_eq]
          constructor
          · rintro ⟨d, ⟨hd, hdk⟩, rfl⟩
            exact ⟨⟨d, hd, rfl⟩, hdk⟩
          · rintro ⟨⟨d, hd, rfl⟩, hdk⟩
            exact ⟨d, ⟨hd, hdk⟩, rfl⟩
        rw [List.map_append, List.mem_append, hothers, List.map_singleton, List.mem_singleton]
        show _ ↔ _ ∨ some key = some k
        by_cases hk : k = key
        · simp [hk]
        · simp [hk, Ne.symm hk]
  | get _ | invalidate _ | clear | cleanup | wait _ => exact hidle rfl

/-- **Behind an entry of a hoard** stand the entries with the keys under which something was kept
    since. -/
theorem hoard_behind {e : CacheEntry} : ∀ (us : List Use) (now : Rat) (xs ys : List CacheEntry),
    (∀ u ∈ us, u.Spares e.key) → ∃ xs' ys', hoard now (xs ++ e :: ys) us = xs' ++ e :: ys' ∧
      ∀ k, k ∈ ys'.map (·.key) ↔ k ∈ ys.map (·.key) ∨ k ∈ us.filterMap Use.key?
  | [], _, xs, ys, _ => ⟨xs, ys, rfl, fun k => by simp⟩
  | u :: us, now, xs, ys, hus => by
      obtain ⟨xs', ys', hone, hkeys⟩ := applyHoard_behind (hus u List.mem_cons_self) now xs ys
      obtain ⟨xs'', ys'', hall, hkeys'⟩ := hoard_behind us (now + u.seconds) xs' ys'
        fun v hv => hus v (List.mem_cons_of_mem u hv)
      refine ⟨xs'', ys'', ?_, fun k => ?_⟩
      · show hoard (now + u.seconds) (u.applyHoard now _) us = _
        rw [hone, hall]
      · rw [hkeys', hkeys, List.filterMap_cons]
        cases hu : u.key? with
        | none => simp
        | some key => simp [or_assoc, eq_comm]

/-- **Whatever stands in a hoard was kept** at the time that is written on it, and neither replaced
    nor forgotten since. -/
theorem exists_of_mem_hoard {start : Rat} {e : CacheEntry} {us : List Use}
    (h : e ∈ hoard start [] us) : ∃ before later, us = before ++ .put e.key e.results :: later ∧
      (∀ u ∈ later, u.Spares e.key) ∧ e.created = .finite (start + time before) := by
  induction us using List.reverseRecOn with
  | nil => exact absurd h List.not_mem_nil
  | append_singleton us u ih =>
      rw [hoard_append] at h
      change e ∈ u.applyHoard (start + time us) (hoard start [] us) at h
      -- an entry that was there before and is spared
      have hold : e ∈ hoard start [] us → u.Spares e.key → ∃ before later,
          us ++ [u] = before ++ .put e.key e.results :: later ∧
            (∀ u ∈ later, u.Spares e.key) ∧ e.created = .finite (start + time before) := by
        intro hmem hu
        obtain ⟨before, later, hus, hspares, hcreated⟩ := ih hmem
        refine ⟨before, later ++ [u], ?_, fun v hv => ?_, hcreated⟩
        · rw [hus, List.append_assoc, List.cons_append]
        · rcases List.mem_append.mp hv with hv | hv
          · exact hspares v hv
          · rwa [List.mem_singleton.mp hv]
      have hidle : u.key? = none → e ∈ (if u.isWipe then [] else hoard start [] us) →
          ∃ before later, us ++ [u] = before ++ .put e.key e.results :: later ∧
            (∀ u ∈ later, u.Spares e.key) ∧ e.created = .finite (start + time before) := by
        intro hnone hmem
        cases hwipe : u.isWipe with
        | true =>
            rw [hwipe] at hmem
            exact absurd hmem List.not_mem_nil
        | false =>
            rw [hwipe] at hmem
            exact hold hmem ⟨by rw [hnone]; nofun, hwipe⟩
      cases u with
      | put key r =>
          rcases List.mem_append.mp h with hmem | hmem
          · obtain ⟨hmem, hne⟩ := List.mem_filter.mp hmem
            exact hold hmem ⟨fun hk => of_decide_eq_true hne (Option.some.inj hk).symm, rfl⟩
          · rw [List.mem_singleton.mp hmem]
            exact ⟨us, [], rfl, fun _ hv => absurd hv List.not_mem_nil, rfl⟩
      | get _ | invalidate _ | clear | cleanup | wait _ => exact hidle rfl h

/-! ## 5. What is found again -/

/-- **An entry of the hoard lasts in the cache** if and only if it has not expired and few others
    were kept since. -/
theorem mem_lasting_iff (h : Keeps now c es) {e : CacheEntry} {xs ys : List CacheEntry}
    (hes : es = xs ++ e :: ys) : e ∈ lasting c.lifetime now c.entries ↔
      c.lifetime.lt (.real (Precision.exact.minus (.finite now) e.created)) = false ∧
        ys.length < c.capacity.toNat := by
  have hrow : IsRow now (e :: ys) := h.hoarded.sublist (hes ▸ List.sublist_append_right xs _)
  have hnodup : (lasting c.lifetime now es).Nodup :=
    ((h.hoarded.sublist List.filter_sublist).nodup).of_map
  cases hlasts : c.lifetime.lt (.real (Precision.exact.minus (.finite now) e.created)) with
  | true =>
      refine ⟨fun he => ?_, fun hfalse => absurd hfalse.1 (by decide)⟩
      exact absurd (hlasts.symm.trans (mem_lasting.mp he).2) (by decide)
  | false =>
      -- what was kept since lasts too
      have hstay : lasting c.lifetime now (e :: ys) = e :: ys :=
        List.filter_eq_self.mpr fun d hd => by
          rw [Bool.not_eq_true', Bool.eq_false_iff]
          intro hexpired
          rcases List.mem_cons.mp hd with rfl | hd
          · exact absurd (hlasts.symm.trans hexpired) (by decide)
          · exact absurd (hlasts.symm.trans (expired_of_sorted hrow hd hexpired)) (by decide)
      have hsplit : lasting c.lifetime now es = lasting c.lifetime now xs ++ e :: ys := by
        rw [hes, lasting_append, hstay]
      rw [hsplit] at hnodup
      rw [h.lasts, hsplit, mem_rtake_iff hnodup]
      exact ⟨fun hlt => ⟨rfl, hlt⟩, And.right⟩

/-- What was kept and neither replaced nor forgotten since lasts if and only if it has not expired
    and there is room for what was kept since. -/
theorem mem_lasting_after_iff {start : Rat} {before later : List Use} {r : Results}
    (h : Keeps (start + time (before ++ .put key r :: later)) c
      (hoard start [] (before ++ .put key r :: later)))
    (hlifetime : c.lifetime.exactly ≠ .undefined) (hspares : ∀ u ∈ later, u.Spares key) :
    ⟨key, r, .finite (start + time before)⟩ ∈
        lasting c.lifetime (start + time (before ++ .put key r :: later)) c.entries ↔
      (Amount.ofRat (time later)).le c.lifetime = true ∧
        ((later.filterMap Use.key?).toFinset.card : Int) < c.capacity := by
  let e : CacheEntry := ⟨key, r, .finite (start + time before)⟩
  obtain ⟨xs, ys, hes, hkeys⟩ := hoard_behind (e := e) later (start + time before)
    (without key (hoard start [] before)) [] hspares
  have hhoard : hoard start [] (before ++ .put key r :: later) = xs ++ e :: ys := by
    rw [hoard_append, ← hes]
    show hoard (start + time before + 0) (without key _ ++ [e]) later = _
    rw [add_zero]
  have hage : Precision.exact.minus (.finite (start + time (before ++ .put key r :: later)))
      e.created = .finite (time later) := by
    have htime : time (before ++ .put key r :: later) = time before + time later := by
      rw [time_append, time_cons]
      exact congrArg (time before + ·) (zero_add _)
    rw [Precision.exact_minus_finite, htime, ← add_assoc, add_sub_cancel_left]
  have hcount : ys.length = (later.filterMap Use.key?).toFinset.card := by
    have hnodup : (ys.map (·.key)).Nodup := by
      have hrow := h.hoarded.nodup
      rw [hhoard, List.append_cons, List.map_append] at hrow
      exact (List.nodup_append.mp hrow).2.1
    have hsame : (ys.map (·.key)).toFinset = (later.filterMap Use.key?).toFinset := by
      ext k
      rw [List.mem_toFinset, List.mem_toFinset, hkeys]
      simp
    rw [← hsame, List.toFinset_card_of_nodup hnodup, List.length_map]
  have hle : (Amount.ofRat (time later)).le c.lifetime =
      !c.lifetime.lt (.ofRat (time later)) := Quantity.finite_le_iff_not_lt hlifetime _
  rw [mem_lasting_iff h hhoard, hage, hcount, hle, Bool.not_eq_true']
  refine and_congr_right fun _ => ?_
  omega

/-- **When results are found.** -/
theorem get_after_iff {start : Rat} {us : List Use}
    (h : Keeps (start + time us) c (hoard start [] us))
    (hlifetime : c.lifetime.exactly ≠ .undefined) (r : Results) :
    (c.get .exact (.finite (start + time us)) key).2 = some r ↔
      ∃ before later, us = before ++ .put key r :: later ∧ (∀ u ∈ later, u.Spares key) ∧
        (Amount.ofRat (time later)).le c.lifetime = true ∧
        ((later.filterMap Use.key?).toFinset.card : Int) < c.capacity := by
  rw [get_eq_some_iff h.row.nodup]
  constructor
  · rintro ⟨e, he, rfl, rfl⟩
    have hmem : e ∈ hoard start [] us := by
      rw [h.lasts] at he
      exact (mem_lasting.mp (List.mem_of_mem_drop he)).1
    obtain ⟨before, later, rfl, hspares, hcreated⟩ := exists_of_mem_hoard hmem
    refine ⟨before, later, rfl, hspares, (mem_lasting_after_iff h hlifetime hspares).mp ?_⟩
    rwa [← hcreated]
  · rintro ⟨before, later, rfl, hspares, hlast⟩
    exact ⟨_, (mem_lasting_after_iff h hlifetime hspares).mpr hlast, rfl, rfl⟩

/-! ## 6. What is dropped -/

/-- **What has expired stands in front.** -/
theorem expired_prefix (h : Keeps now c es) :
    (Shelf.of c).expired .exact (.finite now) <+: (Shelf.of c).order := by
  obtain ⟨gone, hsplit, hgone⟩ := exists_expired_append c.lifetime h.row
  have hexpired : c.entries.filter (c.isExpired .exact (.finite now)) = gone := by
    have hlasting : (lasting c.lifetime now c.entries).filter (c.isExpired .exact (.finite now)) =
        [] := List.filter_eq_nil_iff.mpr fun e he => by
      have hlasts : c.isExpired .exact (.finite now) e = false := (mem_lasting.mp he).2
      rw [hlasts]
      decide
    conv_lhs => rw [hsplit]
    rw [List.filter_append, hlasting, List.append_nil]
    exact List.filter_eq_self.mpr hgone
  rw [Shelf.expired_of, hexpired]
  show gone.map (·.key) <+: c.entries.map (·.key)
  conv_rhs => rw [hsplit, List.map_append]
  exact List.prefix_append _ _

/-- **What is dropped to make room stands in front.** -/
theorem exists_drop_put (h : Keeps now c es) (hc : 1 ≤ c.capacity) (key : CacheKey) (r : Results) :
    ∃ n, ((Shelf.of c).put .exact (.finite now) key r).order =
      ((Shelf.of c).order.erase key).drop n ++ [key] := by
  have hleft : (others now c key).rtake (c.capacity.toNat - 1) <:+ without key c.entries :=
    (List.drop_suffix _ _).trans (others_suffix h.row key)
  obtain ⟨n, hn⟩ : ∃ n, (others now c key).rtake (c.capacity.toNat - 1) =
      (without key c.entries).drop n := ⟨_, List.suffix_iff_eq_drop.mp hleft⟩
  refine ⟨n, ?_⟩
  rw [Shelf.put_of h.row.nodup, put_eq hc]
  show ((others now c key).rtake (c.capacity.toNat - 1) ++
    [(⟨key, r, .finite now⟩ : CacheEntry)]).map (·.key) =
      ((c.entries.map (·.key)).erase key).drop n ++ [key]
  rw [hn, List.map_append, List.map_drop, map_key_without h.row.nodup]
  rfl

/-- **A cache in two parts finds again what was kept.** After any run the list of keys has the keys
    of the table, none twice, in the order of the times at which they were put there, and no more
    of them than there is room for; what has expired stands in front, and so does what is dropped to
    make room. Results are found under a key if and only if they were kept there, not
    replaced or forgotten since, not longer ago than they last, and results were kept since
    under fewer other keys than there is room for. -/
theorem run_keeps {capacity : Int} (hcapacity : 1 ≤ capacity) {lifetime : Amount}
    (hlifetime : lifetime.exactly ≠ .undefined) (start : Rat) (us : List Use)
    (hus : ∀ u ∈ us, 0 ≤ u.seconds) :
    let now : Quantity := .finite (start + time us)
    let c := after start (empty capacity lifetime) us
    let s := shelved start (Shelf.empty capacity lifetime) us
    s = Shelf.of c ∧
    s.order = s.kept.keys ∧ s.order.Nodup ∧
    s.kept.Pairwise (fun d e => d.2.2.le e.2.2 = true) ∧
    (s.order.length : Int) ≤ capacity ∧
    s.expired .exact now <+: s.order ∧
    (∀ key r, ∃ n, (s.put .exact now key r).order = (s.order.erase key).drop n ++ [key]) ∧
    (∀ key, (s.get .exact now key).2 = (c.get .exact now key).2) ∧
    ∀ key r, (c.get .exact now key).2 = some r ↔
      ∃ before later, us = before ++ .put key r :: later ∧ (∀ u ∈ later, u.Spares key) ∧
        (Amount.ofRat (time later)).le lifetime = true ∧
        ((later.filterMap Use.key?).toFinset.card : Int) < capacity := by
  intro now c s
  have hstart := Keeps.empty start capacity lifetime
  have hafter := hstart.after us hcapacity hus
  have h : Keeps (start + time us) c (hoard start [] us) := hafter.1
  have hc : c.capacity = capacity := hafter.2.1
  have hl : c.lifetime = lifetime := hafter.2.2
  have hcapacity' : 1 ≤ c.capacity := hc.symm ▸ hcapacity
  have hs : s = Shelf.of c := shelved_of us hstart hcapacity hus
  have hkeys : s.order = s.kept.keys := by
    rw [hs, Shelf.keys_kept_of]
    rfl
  refine ⟨hs, hkeys, ?_, ?_, ?_, ?_, fun key r => ?_, fun key => ?_, fun key r => ?_⟩
  · rw [hs]
    exact h.row.nodup
  · rw [hs]
    refine List.pairwise_map.mpr (h.row.sorted.imp_of_mem fun {d e} hd he hle => ?_)
    obtain ⟨t, -, ht⟩ := h.row.dated d hd
    obtain ⟨t', -, ht'⟩ := h.row.dated e he
    show d.created.le e.created = true
    rw [ht, ht'] at hle ⊢
    rw [Quantity.le_finite]
    exact decide_eq_true hle
  · have hroom := h.room
    rw [hs]
    show ((c.entries.map (·.key)).length : Int) ≤ capacity
    rw [List.length_map, ← hc]
    omega
  · rw [hs]
    exact expired_prefix h
  · rw [hs]
    exact exists_drop_put h hcapacity' key r
  · rw [hs, Shelf.get_of h.row.nodup]
  · rw [← hc, ← hl]
    exact get_after_iff h (hl.symm ▸ hlifetime) r

/-- The key of a query with nothing set on the panel. -/
def plainKey (query : Text) : CacheKey :=
  ⟨query, none, none, [], [], .nothing, .nothing, false⟩

/-- Four minutes in which results are kept under one key, and twice under another. -/
def fourMinutes : List Use :=
  [.put (plainKey ['a']) .empty, .wait 150, .put (plainKey ['b']) .empty, .invalidate .index,
    .put (plainKey ['b']) .empty, .wait 90, .cleanup]

/-- With room for two keys, results that last five minutes are found after four. -/
theorem run_keeps_four_minutes :
    ((after 0 (empty 2 (.whole 300)) fourMinutes).get .exact (.finite (0 + time fourMinutes))
      (plainKey ['a'])).2 = some .empty := by
  have hwaits : ∀ u ∈ fourMinutes, 0 ≤ u.seconds := by
    intro u hu
    simp only [fourMinutes, List.mem_cons, List.not_mem_nil, or_false] at hu
    rcases hu with rfl | rfl | rfl | rfl | rfl | rfl | rfl <;> decide
  have hrun := run_keeps (show (1 : Int) ≤ 2 by decide)
    (show (Amount.whole 300).exactly ≠ .undefined by decide) 0 fourMinutes hwaits
  refine (hrun.2.2.2.2.2.2.2.2 (plainKey ['a']) .empty).mpr ⟨[], _, rfl, fun u hu => ?_, ?_, ?_⟩
  · have hkey : some (plainKey ['b']) ≠ some (plainKey ['a']) := by decide
    simp only [List.mem_cons, List.not_mem_nil, or_false] at hu
    rcases hu with rfl | rfl | rfl | rfl | rfl | rfl
    all_goals first | exact ⟨hkey, rfl⟩ | exact ⟨nofun, rfl⟩
  · decide +kernel
  · decide

end Cache

end Worklog
