import Worklog.Proofs.Cache.Row
import Worklog.Proofs.Table

/-!
# A cache in two parts

A cache can be kept in two parts: a table from which results are looked up, and a list that
remembers in which order the keys came. A `Shelf` is such a cache. Each operation has to see to both
parts; that they stay in step is what makes a shelf do what a cache does:

* `Shelf.of`: the shelf of a cache;
* `Shelf.drop_of`, `Shelf.cleanup_of`, `Shelf.evict_of`: what is taken out of one part is taken out
  of the other;
* **`Shelf.get_of`, `Shelf.put_of`**: looking up and keeping come to the same on both.
-/

namespace Worklog

/-- A cache in two parts. -/
structure Shelf where
  capacity : Int
  lifetime : Amount
  /-- The results under their keys, with the time at which they were put there. -/
  kept : Table CacheKey (Results × Quantity)
  /-- The keys, oldest first. -/
  order : List CacheKey

namespace Shelf

/-- A shelf with nothing on it. -/
def empty (capacity : Int) (lifetime : Amount) : Shelf := ⟨capacity, lifetime, [], []⟩

/-- Whether what was put there at a time has expired. -/
def isExpired (p : Precision) (s : Shelf) (clock created : Quantity) : Bool :=
  s.lifetime.lt (.real (p.minus clock created))

/-- Takes a key out of both parts. -/
def drop (s : Shelf) (key : CacheKey) : Shelf :=
  { s with kept := s.kept.erase key, order := s.order.erase key }

/-- Looks results up. Expired results are dropped and not given. -/
def get (p : Precision) (s : Shelf) (clock : Quantity) (key : CacheKey) : Shelf × Option Results :=
  match s.kept.get? key with
  | none => (s, none)
  | some (r, created) => if s.isExpired p clock created then (s.drop key, none) else (s, some r)

/-- The keys of what has expired. -/
def expired (p : Precision) (s : Shelf) (clock : Quantity) : List CacheKey :=
  Table.keys (s.kept.filter fun e => s.isExpired p clock e.2.2)

/-- Drops what has expired, key by key. -/
def cleanup (p : Precision) (s : Shelf) (clock : Quantity) : Shelf :=
  (s.expired p clock).foldl drop s

/-- Whether there is no room for one more key. -/
def isFull (s : Shelf) : Bool := decide (s.capacity ≤ (s.kept.length : Int))

/-- Drops the first of some keys, one after the other, as long as there is no room. -/
def evict : List CacheKey → Shelf → Shelf
  | [], s => s
  | key :: keys, s => if s.isFull then evict keys (s.drop key) else s

/-- Keeps results: what is there under the key is dropped, then what has expired if there is no
    room, then the oldest as long as there is none. -/
def put (p : Precision) (s : Shelf) (clock : Quantity) (key : CacheKey) (results : Results) :
    Shelf :=
  let s := if s.kept.has key then s.drop key else s
  let s := if s.isFull then s.cleanup p clock else s
  let s := evict s.order s
  if s.capacity ≤ 0 then s
  else { s with kept := s.kept.put key (results, clock), order := s.order ++ [key] }

/-- Takes everything from a shelf. -/
def clear (s : Shelf) : Shelf := { s with kept := [], order := [] }

/-- Takes everything from a shelf after a change of records; a change of the index alone matters
    not. -/
def invalidate (s : Shelf) : Disturbance → Shelf
  | .records _ => s.clear
  | .index => s

/-! ## 1. Both parts in step -/

/-- **The shelf of a cache.** -/
def of (c : Cache) : Shelf where
  capacity := c.capacity
  lifetime := c.lifetime
  kept := c.entries.map fun e => (e.key, e.results, e.created)
  order := c.entries.map (·.key)

variable {p : Precision} {c : Cache} {clock : Quantity} {key : CacheKey}

theorem keys_kept_of (c : Cache) : (of c).kept.keys = c.entries.map (·.key) := by
  unfold of Table.keys
  rw [List.map_map]
  rfl

theorem isFull_of (c : Cache) : (of c).isFull = c.isFull := by
  unfold isFull Cache.isFull Cache.size of
  rw [List.length_map]

/-- What a cache finds under a key is what the table of its shelf has there. -/
theorem get?_kept_of (c : Cache) (key : CacheKey) :
    (of c).kept.get? key = (c.find? key).map fun e => (e.results, e.created) := by
  unfold of Cache.find?
  dsimp only
  induction c.entries with
  | nil => rfl
  | cons e es ih =>
      rw [List.map_cons, Table.get?, List.find?_cons]
      by_cases h : e.key = key
      · simp [h]
      · simp [h, ih]

theorem drop_of (h : (c.entries.map (·.key)).Nodup) : (of c).drop key = of (c.drop key) := by
  have hkept : (of c).kept.erase key = (of (c.drop key)).kept := by
    unfold of Cache.drop Table.erase
    rw [List.filter_map]
    rfl
  have horder : (of c).order.erase key = (of (c.drop key)).order :=
    (Cache.map_key_without h).symm
  unfold drop
  rw [hkept, horder]
  rfl

/-- Dropping some keys one after the other leaves the entries with other keys. -/
theorem foldl_drop_of : ∀ (keys : List CacheKey) {c : Cache}, (c.entries.map (·.key)).Nodup →
    keys.foldl drop (of c) =
      of { c with entries := c.entries.filter fun e => decide (e.key ∉ keys) }
  | [], c, _ => by simp
  | key :: keys, c, h => by
      have hleft : (c.drop key).entries.Sublist c.entries := List.filter_sublist
      rw [List.foldl_cons, drop_of h, foldl_drop_of keys (h.sublist (hleft.map _))]
      refine congrArg (fun es => of { c with entries := es }) ?_
      show (c.entries.filter _).filter _ = _
      rw [List.filter_filter]
      refine List.filter_congr fun e _ => ?_
      by_cases hk : e.key = key <;> simp [hk]

/-- The keys of what has expired. -/
theorem expired_of (p : Precision) (c : Cache) (clock : Quantity) :
    (of c).expired p clock = (c.entries.filter (c.isExpired p clock)).map (·.key) := by
  unfold expired of Table.keys
  rw [List.filter_map, List.map_map]
  rfl

/-- **Cleaning up** drops the same from both parts. -/
theorem cleanup_of (h : (c.entries.map (·.key)).Nodup) :
    (of c).cleanup p clock = of (c.cleanup p clock) := by
  unfold cleanup
  rw [expired_of, foldl_drop_of _ h]
  refine congrArg (fun es => of { c with entries := es }) (List.filter_congr fun e he => ?_)
  -- an entry has the key of an expired one if and only if it has expired: no key occurs twice
  have hiff : e.key ∈ (c.entries.filter (c.isExpired p clock)).map (·.key) ↔
      c.isExpired p clock e = true := by
    refine ⟨fun hm => ?_, fun he' => List.mem_map_of_mem (List.mem_filter.mpr ⟨he, he'⟩)⟩
    obtain ⟨d, hd, hkey⟩ := List.mem_map.mp hm
    obtain ⟨hmem, hgone⟩ := List.mem_filter.mp hd
    rwa [List.inj_on_of_nodup_map h hmem he hkey] at hgone
  cases hc : c.isExpired p clock e <;> simp [hiff, hc]

/-- **Making room** drops the oldest from both parts. -/
theorem evict_of : ∀ {c : Cache}, (c.entries.map (·.key)).Nodup →
    evict (of c).order (of c) = of c.makeRoom := by
  intro c
  obtain ⟨capacity, lifetime, entries⟩ := c
  induction entries with
  | nil =>
      intro _
      show of _ = _
      unfold Cache.makeRoom
      rw [List.drop_nil]
  | cons e es ih =>
      intro h
      have hes : (es.map (·.key)).Nodup := (List.nodup_cons.mp h).2
      have hdrop : (of ⟨capacity, lifetime, e :: es⟩).drop e.key = of ⟨capacity, lifetime, es⟩ := by
        rw [drop_of h]
        refine congrArg (fun es => of { capacity, lifetime, entries := es }) ?_
        rw [List.filter_cons_of_neg (by simp)]
        exact Cache.without_of_notMem (List.nodup_cons.mp h).1
      have hlength : (e :: es).length = es.length + 1 := rfl
      show evict (e.key :: _) _ = _
      unfold evict
      rw [isFull_of]
      split
      next hfull =>
        have hsize : capacity ≤ ((e :: es).length : Int) := of_decide_eq_true hfull
        have hmore :
            (e :: es).length + 1 - capacity.toNat = es.length + 1 - capacity.toNat + 1 := by omega
        rw [hdrop]
        refine (ih hes).trans (congrArg of ?_)
        unfold Cache.makeRoom Cache.size
        dsimp only
        rw [hmore, List.drop_succ_cons]
      next hroom =>
        have hsize : ¬ capacity ≤ ((e :: es).length : Int) := fun hle =>
          hroom (decide_eq_true hle)
        have hnone : (e :: es).length + 1 - capacity.toNat = 0 := by omega
        unfold Cache.makeRoom Cache.size
        dsimp only
        rw [hnone]
        rfl

/-! ## 2. The same cache -/

/-- **Looking results up** comes to the same. -/
theorem get_of (h : (c.entries.map (·.key)).Nodup) :
    (of c).get p clock key = (of (c.get p clock key).1, (c.get p clock key).2) := by
  unfold get Cache.get
  rw [get?_kept_of]
  cases c.find? key with
  | none => rfl
  | some e =>
      dsimp only [Option.map_some]
      have hexpired : (of c).isExpired p clock e.created = c.isExpired p clock e := rfl
      rw [hexpired]
      split
      · rw [drop_of h]
      · rfl

/-- **Keeping results** comes to the same. -/
theorem put_of (h : (c.entries.map (·.key)).Nodup) (results : Results) :
    (of c).put p clock key results = of (c.put p clock key results) := by
  have hdropped : (if (of c).kept.has key then (of c).drop key else of c) = of (c.drop key) := by
    split
    · exact drop_of h
    next hnot =>
      rw [Table.has_iff_mem_keys, keys_kept_of] at hnot
      exact congrArg (fun es => of { c with entries := es }) (Cache.without_of_notMem hnot).symm
  have hnodup : ∀ {d : Cache}, d.entries.Sublist c.entries → (d.entries.map (·.key)).Nodup :=
    fun hd => h.sublist (hd.map _)
  have hdrop : (c.drop key).entries.Sublist c.entries := List.filter_sublist
  -- the cache that has dropped what is expired, if there was no room
  let d := if (c.drop key).isFull then (c.drop key).cleanup p clock else c.drop key
  have hclean : (if (of (c.drop key)).isFull then (of (c.drop key)).cleanup p clock
      else of (c.drop key)) = of d := by
    rw [isFull_of, cleanup_of (hnodup hdrop)]
    unfold d
    split
    · rfl
    · rfl
  have hd : d.entries.Sublist (c.drop key).entries := by
    unfold d
    split
    · exact List.filter_sublist
    · exact List.Sublist.refl _
  have hroom : d.makeRoom.entries.Sublist (c.drop key).entries :=
    (List.drop_sublist _ _).trans hd
  have hnot : key ∉ (of d.makeRoom).kept.keys := by
    rw [keys_kept_of]
    exact fun hm => Cache.notMem_without key c.entries ((hroom.map _).subset hm)
  have hput : (of c).put p clock key results =
      if d.makeRoom.capacity ≤ 0 then of d.makeRoom
      else { of d.makeRoom with
        kept := (of d.makeRoom).kept.put key (results, clock)
        order := (of d.makeRoom).order ++ [key] } := by
    unfold put
    dsimp only
    rw [hdropped, hclean, evict_of (hnodup (hd.trans hdrop))]
    rfl
  rw [hput, Table.put_of_notMem hnot]
  show _ = of (if d.makeRoom.capacity ≤ 0 then d.makeRoom
    else { d.makeRoom with entries := d.makeRoom.entries ++ [⟨key, results, clock⟩] })
  split
  · rfl
  · unfold of
    rw [List.map_append, List.map_append]
    rfl

end Shelf

end Worklog
