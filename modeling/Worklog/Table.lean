/-!
# Tables, tallies and windows

Three shapes that the rest of the library builds on:

* a `Table` maps keys to values and remembers the order in which its keys came; writing a known
  key keeps its place;
* a `Tally` is a table of positive counts, from which a key that counts down to zero disappears;
* `front` and `back` cut a list at a signed count, `itemAt?` reads it at a signed position, and
  `pushLatest` keeps the latest items.

The view of a table is `Table.get?`; `get?_put` and `get?_erase` say what writing and erasing do
to it.
-/

namespace Worklog

/-! ## 1. Tables -/

/-- A table: keys with their values, in the order in which the keys came. -/
abbrev Table (κ α : Type) := List (κ × α)

namespace Table

variable {κ α : Type} [DecidableEq κ]

/-- The value of a key. -/
def get? (key : κ) : Table κ α → Option α
  | [] => none
  | (k, a) :: rest => if k = key then some a else get? key rest

/-- Writes the value of a key: in its place if the key is known, at the end otherwise. -/
def put (key : κ) (a : α) : Table κ α → Table κ α
  | [] => [(key, a)]
  | (k, b) :: rest => if k = key then (k, a) :: rest else (k, b) :: put key a rest

/-- Takes a key out. -/
def erase (key : κ) (t : Table κ α) : Table κ α := t.filter fun e => decide (e.1 ≠ key)

/-- Whether a key is known. -/
def has (key : κ) (t : Table κ α) : Bool := (get? key t).isSome

/-- The value of a key, or a default. -/
def getD (key : κ) (default : α) (t : Table κ α) : α := (get? key t).getD default

/-- The keys in their order. -/
def keys (t : Table κ α) : List κ := t.map (·.1)

/-- The values in the order of their keys. -/
def values (t : Table κ α) : List α := t.map (·.2)

@[simp] theorem get?_nil (key : κ) : get? key ([] : Table κ α) = none := rfl

/-- A written key has its value, and no other key changes. -/
theorem get?_put (key k : κ) (a : α) (t : Table κ α) :
    get? k (put key a t) = if key = k then some a else get? k t := by
  induction t with
  | nil => simp [put, get?]
  | cons e t ih =>
    obtain ⟨k', b⟩ := e
    by_cases h : k' = key
    · subst h
      by_cases hk : k' = k <;> simp [put, get?, hk]
    · by_cases hk : key = k
      · subst hk; simp [put, get?, h, ih]
      · simp [put, get?, h, ih, hk]

/-- An erased key has no value, and no other key changes. -/
theorem get?_erase (key k : κ) (t : Table κ α) :
    get? k (erase key t) = if key = k then none else get? k t := by
  induction t with
  | nil => simp [erase]
  | cons e t ih =>
    obtain ⟨k', b⟩ := e
    have ih' : get? k (List.filter (fun e : κ × α => decide (e.1 ≠ key)) t) =
        if key = k then none else get? k t := ih
    by_cases h : k' = key
    · subst h
      by_cases hk : k' = k
      · subst hk; simp only [erase, ne_eq, not_true, decide_false, Bool.false_eq_true,
          not_false_eq_true, List.filter_cons_of_neg, if_true]
        simpa using ih'
      · simp only [erase, ne_eq, not_true, decide_false, Bool.false_eq_true,
          not_false_eq_true, List.filter_cons_of_neg, get?, if_neg hk]
        simpa [hk] using ih'
    · simp only [erase, ne_eq, h, not_false_eq_true, decide_true, List.filter_cons_of_pos, get?]
      by_cases hk : k' = k
      · subst hk; simp [Ne.symm h]
      · rw [if_neg hk, if_neg hk]; simpa using ih'

end Table

/-! ## 2. Tallies -/

/-- A table of counts. -/
abbrev Tally (κ : Type) := Table κ Nat

namespace Tally

variable {κ : Type} [DecidableEq κ]

/-- The count of a key. -/
def count (key : κ) (t : Tally κ) : Nat := Table.getD key 0 t

/-- Counts a key once more. -/
def up (key : κ) (t : Tally κ) : Tally κ := Table.put key (count key t + 1) t

/-- Counts a key once less; a key that reaches zero goes. -/
def down (key : κ) (t : Tally κ) : Tally κ :=
  if count key t ≤ 1 then Table.erase key t else Table.put key (count key t - 1) t

/-- The keys with the highest counts, at most `limit` of them, highest first; keys with the same
    count keep their order. -/
def mostCommon (limit : Int) (t : Tally κ) : List (κ × Nat) :=
  (t.mergeSort fun a b => decide (b.2 ≤ a.2)).take limit.toNat

/-- Counting a key up adds one to its count and nothing to any other. -/
theorem count_up (key k : κ) (t : Tally κ) :
    count k (up key t) = count k t + (if key = k then 1 else 0) := by
  by_cases h : key = k
  · subst h; simp [count, up, Table.getD, Table.get?_put]
  · simp [count, up, Table.getD, Table.get?_put, h]

/-- Counting a key down takes one from its count and nothing from any other. -/
theorem count_down (key k : κ) (t : Tally κ) :
    count k (down key t) = count k t - (if key = k then 1 else 0) := by
  by_cases h : key = k
  · subst h
    by_cases hc : count key t ≤ 1
    · have : down key t = Table.erase key t := if_pos hc
      rw [this, if_pos rfl]
      have h0 : count key (Table.erase key t) = 0 := by simp [count, Table.getD, Table.get?_erase]
      omega
    · have : down key t = Table.put key (count key t - 1) t := if_neg hc
      rw [this, if_pos rfl]
      simp [count, Table.getD, Table.get?_put]
  · unfold down
    split <;> simp [count, Table.getD, Table.get?_erase, Table.get?_put, h]

end Tally

/-! ## 3. Windows -/

/-- The first `limit` items of a list; a negative limit leaves out that many at the end. -/
def front {α : Type} (limit : Int) (items : List α) : List α :=
  if 0 ≤ limit then items.take limit.toNat else items.take (items.length - limit.natAbs)

/-- The last `limit` items of a list, all for zero; a negative limit leaves out that many at the
    start. -/
def back {α : Type} (limit : Int) (items : List α) : List α :=
  if 0 < limit then items.drop (items.length - limit.toNat) else items.drop limit.natAbs

/-- The item at a position; a negative position counts from the end. -/
def itemAt? {α : Type} (position : Int) (items : List α) : Option α :=
  if 0 ≤ position then items[position.toNat]?
  else if items.length < position.natAbs then none
  else items[items.length - position.natAbs]?

/-- A list of the latest items, at most `capacity` of them, oldest first, with one more. -/
def pushLatest {α : Type} (capacity : Nat) (items : List α) (a : α) : List α :=
  let items := items ++ [a]
  items.drop (items.length - capacity)

end Worklog
