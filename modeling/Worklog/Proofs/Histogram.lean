import Mathlib.Algebra.Order.Field.Rat
import Mathlib.Data.List.Induction
import Mathlib.Tactic.Linarith
import Worklog.Histogram
import Worklog.Proofs.Fault
import Worklog.Proofs.Number.Exact

/-!
# What a histogram knows

A histogram has forgotten the numbers that it counted, and knows for each of them only the bucket to
which it belongs. On a scale of increasing bounds this is enough to say how many numbers lie up to a
bound, and between which bounds a percentile lies:

* `Histogram.IsScale`, `Histogram.place`: scales, and where a number belongs on them;
* `Histogram.record_ofNumbers`, `Histogram.foldlM_record`: **counting numbers** gives each bucket
  the numbers that belong to it;
* `Histogram.countTo_ofNumbers`: so the running count is that of the numbers up to a bound;
* `Histogram.exists_percentile`, `Histogram.IsReached.mono`: **a percentile** is the first bucket at
  which the running count reaches a part of the total;
* **`Histogram.measures`**: what is known of the numbers that were counted.
-/

namespace Worklog

namespace Histogram

variable {bounds values : List Amount} {x : Amount}

/-! ## 1. Scales -/

/-- **A scale**: bounds of buckets, each smaller than the next. -/
structure IsScale (bounds : List Amount) : Prop where
  nonempty : bounds ≠ []
  rational : ∀ b ∈ bounds, b.IsRational
  increasing : bounds.Pairwise fun a b => a.lt b = true

/-- Where a number belongs on a scale: at the first bound that it does not exceed, or at the last
    one. -/
def place (bounds : List Amount) (x : Amount) : Nat :=
  min (bounds.findIdx x.le) (bounds.length - 1)

namespace IsScale

variable {i j : Nat} {a b : Amount} (h : IsScale bounds)
include h

theorem value_lt (hij : i < j) (ha : bounds[i]? = some a) (hb : bounds[j]? = some b) :
    a.value < b.value := by
  obtain ⟨hi, rfl⟩ := List.getElem?_eq_some_iff.mp ha
  obtain ⟨hj, rfl⟩ := List.getElem?_eq_some_iff.mp hb
  have hlt := List.pairwise_iff_getElem.mp h.increasing i j hi hj hij
  rw [(h.rational _ (List.getElem_mem hi)).lt (h.rational _ (List.getElem_mem hj))] at hlt
  exact of_decide_eq_true hlt

theorem value_le (hij : i ≤ j) (ha : bounds[i]? = some a) (hb : bounds[j]? = some b) :
    a.value ≤ b.value := by
  rcases Nat.lt_or_eq_of_le hij with hij | rfl
  · exact (h.value_lt hij ha hb).le
  · rw [Option.some.inj (ha.symm.trans hb)]

/-- No bound stands at two places. -/
theorem same_iff (ha : bounds[i]? = some a) (hb : bounds[j]? = some b) :
    a.same b = true ↔ i = j := by
  rw [(h.rational _ (List.mem_of_getElem? ha)).same (h.rational _ (List.mem_of_getElem? hb)),
    decide_eq_true_eq]
  constructor
  · intro heq
    rcases Nat.lt_trichotomy i j with hij | hij | hij
    · exact absurd heq (h.value_lt hij ha hb).ne
    · exact hij
    · exact absurd heq (h.value_lt hij hb ha).ne'
  · rintro rfl
    rw [Option.some.inj (ha.symm.trans hb)]

theorem length_pos : 0 < bounds.length := List.length_pos_iff.mpr h.nonempty

theorem place_lt (x : Amount) : place bounds x < bounds.length := by
  have hpos := h.length_pos
  unfold place
  omega

/-- **A number belongs up to a bound** if it does not exceed it; only the last bucket holds greater
    numbers too. -/
theorem place_le_iff (hx : x.IsRational) (hb : bounds[i]? = some b) (hi : i + 1 < bounds.length) :
    place bounds x ≤ i ↔ x.le b = true := by
  have hplace : place bounds x ≤ i ↔ bounds.findIdx x.le ≤ i := by
    unfold place
    omega
  rw [hplace]
  constructor
  · intro hle
    have hfound : bounds.findIdx x.le < bounds.length := by omega
    have hfirst : x.le bounds[bounds.findIdx x.le] = true := List.findIdx_getElem
    have hstep := h.value_le hle (List.getElem?_eq_getElem hfound) hb
    rw [Amount.Denotes.le hx (h.rational _ (List.getElem_mem hfound)), decide_eq_true_eq] at hfirst
    rw [Amount.Denotes.le hx (h.rational _ (List.mem_of_getElem? hb)), decide_eq_true_eq]
    exact hfirst.trans hstep
  · intro hle
    obtain ⟨hi', rfl⟩ := List.getElem?_eq_some_iff.mp hb
    by_contra hlt
    rw [List.not_of_lt_findIdx (Nat.lt_of_not_le hlt)] at hle
    cases hle

end IsScale

/-! ## 2. Counting -/

/-- The bound for a number stands at its place. -/
theorem boundFor?_eq (h : Histogram) (x : Amount) :
    h.boundFor? x = (h.buckets.map (·.bound))[place (h.buckets.map (·.bound)) x]? := by
  have hfind : (h.buckets.find? fun b => x.le b.bound).map (·.bound) =
      (h.buckets.map (·.bound))[(h.buckets.map (·.bound)).findIdx x.le]? := by
    rw [← List.find?_eq_getElem?_findIdx, List.find?_map]
    rfl
  unfold boundFor? place
  cases hb : h.buckets.find? fun b => x.le b.bound with
  | some b =>
      rw [hb] at hfind
      have hlt := (List.getElem?_eq_some_iff.mp hfind.symm).1
      rw [Nat.min_eq_left (by omega)]
      exact hfind
  | none =>
      rw [hb] at hfind
      have hle := List.getElem?_eq_none_iff.mp hfind.symm
      rw [Nat.min_eq_right (by omega), ← List.getLast?_eq_getElem?, List.getLast?_map]

/-- **The histogram of some numbers**: each bucket holds the numbers that belong to it. -/
def ofNumbers (bounds values : List Amount) (sum : Amount) : Histogram :=
  ⟨bounds.mapIdx fun i b => ⟨b, values.countP fun x => place bounds x = i⟩, values.length, sum⟩

theorem bounds_ofNumbers (bounds values : List Amount) (sum : Amount) :
    (ofNumbers bounds values sum).buckets.map (·.bound) = bounds := by
  refine List.ext_getElem? fun i => ?_
  unfold ofNumbers
  rw [List.getElem?_map, List.getElem?_mapIdx, Option.map_map]
  exact congrFun Option.map_id _

theorem ofBounds_eq (bounds : List Amount) : ofBounds bounds = ofNumbers bounds [] (.whole 0) := by
  unfold ofBounds ofNumbers
  refine congrArg (Histogram.mk · 0 (.whole 0)) (List.ext_getElem? fun i => ?_)
  rw [List.getElem?_map, List.getElem?_mapIdx]
  rfl

/-- Counting a number adds one at its place. -/
theorem countAt_ofNumbers (h : IsScale bounds) {sum : Amount} {b : Amount}
    (hb : bounds[place bounds x]? = some b) : countAt b (ofNumbers bounds values sum).buckets =
      (ofNumbers bounds (values ++ [x]) sum).buckets := by
  refine List.ext_getElem? fun i => ?_
  unfold countAt ofNumbers
  rw [List.getElem?_map, List.getElem?_mapIdx, List.getElem?_mapIdx]
  cases ha : bounds[i]? with
  | none => rfl
  | some a =>
      have hsame := h.same_iff ha hb
      rw [Option.map_some, Option.map_some, Option.map_some, List.countP_append,
        List.countP_singleton]
      by_cases hi : i = place bounds x
      · simp [hsame.mpr hi, hi]
      · have hno : a.same b = false := Bool.not_eq_true _ ▸ mt hsame.mp hi
        simp [hno, Ne.symm hi]

/-- **Counting one number more.** -/
theorem record_ofNumbers (h : IsScale bounds) (values : List Amount) {sum : Amount} {s : Rat}
    (hsum : sum.Denotes s) (hx : x.IsRational) : ∃ more, more.Denotes (s + x.value) ∧
      (ofNumbers bounds values sum).record .exact x =
        .ok (ofNumbers bounds (values ++ [x]) more) := by
  obtain ⟨more, hmore, hdenotes⟩ := hsum.add hx
  refine ⟨more, hdenotes, ?_⟩
  have hadd : (ofNumbers bounds values sum).sum.add .exact x = .ok more := hmore
  obtain ⟨b, hb⟩ : ∃ b, bounds[place bounds x]? = some b :=
    ⟨_, List.getElem?_eq_getElem (h.place_lt x)⟩
  have hbound : (ofNumbers bounds values sum).boundFor? x = some b := by
    rw [boundFor?_eq, bounds_ofNumbers, hb]
  unfold record
  rw [hadd, ok_bind]
  simp only [hbound]
  rw [countAt_ofNumbers h hb]
  unfold ofNumbers
  rw [List.length_append]
  rfl

/-- **Counting numbers** one after the other. -/
theorem foldlM_record (h : IsScale bounds) (values : List Amount)
    (hvalues : ∀ x ∈ values, x.IsRational) : ∃ sum, sum.Denotes (values.map (·.value)).sum ∧
      values.foldlM (fun g x => g.record .exact x) (ofBounds bounds) =
        .ok (ofNumbers bounds values sum) := by
  induction values using List.reverseRecOn with
  | nil => exact ⟨.whole 0, Amount.denotes_whole 0, congrArg _ (ofBounds_eq bounds)⟩
  | append_singleton values x ih =>
      obtain ⟨sum, hsum, hrun⟩ := ih fun y hy => hvalues y (List.mem_append_left _ hy)
      obtain ⟨more, hmore, hrecord⟩ := record_ofNumbers h values hsum
        (hvalues x (List.mem_append_right _ (List.mem_singleton_self x)))
      refine ⟨more, ?_, ?_⟩
      · rw [List.map_append, List.sum_append]
        simpa using hmore
      · rw [List.foldlM_append, hrun, ok_bind, List.foldlM_cons, hrecord]
        rfl

/-! ## 3. Running counts -/

/-- How many numbers a histogram counted up to a bucket. -/
def countTo (h : Histogram) (i : Nat) : Nat := ((h.buckets.take (i + 1)).map (·.count)).sum

theorem countP_lt_succ {α : Type} (f : α → Nat) (n : Nat) : ∀ l : List α,
    l.countP (fun a => f a < n + 1) = l.countP (fun a => f a < n) + l.countP (fun a => f a = n)
  | [] => rfl
  | a :: l => by
      rw [List.countP_cons, List.countP_cons, List.countP_cons, countP_lt_succ f n l]
      rcases Nat.lt_trichotomy (f a) n with h | h | h
      · simp [h, h.ne, Nat.lt_succ_of_lt h]
        omega
      · simp [h]
        omega
      · simp [Nat.not_lt_of_gt h, h.ne', Nat.not_lt_of_ge h]

/-- The buckets up to a place hold the numbers that belong there. -/
theorem sum_take_ofNumbers (values : List Amount) (sum : Amount) : ∀ {n : Nat}, n ≤ bounds.length →
    (((ofNumbers bounds values sum).buckets.take n).map (·.count)).sum =
      values.countP fun x => place bounds x < n
  | 0, _ => by simp
  | n + 1, hn => by
      have hbucket : (ofNumbers bounds values sum).buckets[n]? =
          some ⟨bounds[n], values.countP fun x => place bounds x = n⟩ := by
        unfold ofNumbers
        rw [List.getElem?_mapIdx, List.getElem?_eq_getElem hn]
        rfl
      rw [List.take_add_one, hbucket, List.map_append, List.sum_append,
        sum_take_ofNumbers values sum (Nat.le_of_succ_le hn), countP_lt_succ]
      simp

/-- **The running count** up to a bucket, other than the last, is that of the numbers that do not
    exceed its bound. -/
theorem countTo_ofNumbers (h : IsScale bounds) (hvalues : ∀ x ∈ values, x.IsRational)
    (sum : Amount) {i : Nat} {b : Amount} (hb : bounds[i]? = some b) (hi : i + 1 < bounds.length) :
    (ofNumbers bounds values sum).countTo i = values.countP (·.le b) := by
  unfold countTo
  rw [sum_take_ofNumbers values sum hi.le]
  refine List.countP_congr fun x hx => ?_
  rw [decide_eq_true_eq, Nat.lt_succ_iff]
  exact h.place_le_iff (hvalues x hx) hb hi

/-- All numbers are in some bucket. -/
theorem sum_counts_ofNumbers (h : IsScale bounds) (values : List Amount) (sum : Amount) :
    ((ofNumbers bounds values sum).buckets.map (·.count)).sum = values.length := by
  have hlength : (ofNumbers bounds values sum).buckets.length = bounds.length := List.length_mapIdx
  have hall := sum_take_ofNumbers values sum (Nat.le_refl bounds.length)
  rw [← hlength, List.take_length, hlength] at hall
  rw [hall, List.countP_eq_length]
  exact fun x _ => decide_eq_true (h.place_lt x)

/-! ## 4. Percentiles -/

/-- **The first bucket that a percentile reaches**: the one at which the running count comes to that
    part of the total. -/
structure IsReached (h : Histogram) (percent : Rat) (i : Nat) : Prop where
  enough : h.total * percent / 100 ≤ h.countTo i
  before : ∀ j < i, (h.countTo j : Rat) < h.total * percent / 100

/-- A greater percentile reaches no earlier bucket. -/
theorem IsReached.mono {h : Histogram} {p q : Rat} {i j : Nat} (hi : h.IsReached p i)
    (hj : h.IsReached q j) (hpq : p ≤ q) : i ≤ j := by
  by_contra hlt
  have hless := hi.before j (Nat.lt_of_not_le hlt)
  have hmore : (h.total : Rat) * p / 100 ≤ h.total * q / 100 := by gcongr
  exact absurd (hmore.trans hj.enough) (not_le.mpr hless)

/-- A running count that reaches a target does so at a first bucket. -/
theorem exists_reach {target : Quantity} {x : Rat} (ht : target.Denotes x) :
    ∀ {running : Nat} {buckets : List Bucket}, buckets ≠ [] →
      x ≤ (running + (buckets.map (·.count)).sum : Nat) → ∃ i c, buckets[i]? = some c ∧
        reach target running buckets = some c.bound ∧
        x ≤ (running + ((buckets.take (i + 1)).map (·.count)).sum : Nat) ∧
        ∀ j < i, ((running + ((buckets.take (j + 1)).map (·.count)).sum : Nat) : Rat) < x
  | _, [], hne, _ => absurd rfl hne
  | running, b :: rest, _, hx => by
      have hle : target.le (.ofNat (running + b.count)) = decide (x ≤ (running + b.count : Nat)) :=
        ht.le (Quantity.denotes_finite _)
      by_cases hb : x ≤ (running + b.count : Nat)
      · refine ⟨0, b, rfl, ?_, by simpa using hb, fun j hj => absurd hj (Nat.not_lt_zero j)⟩
        rw [reach, if_pos (hle.trans (decide_eq_true hb))]
      · have hsum : running + ((b :: rest).map (·.count)).sum =
            running + b.count + (rest.map (·.count)).sum := by
          rw [List.map_cons, List.sum_cons, Nat.add_assoc]
        have hne : rest ≠ [] := by
          rintro rfl
          exact hb (by simpa using hx)
        obtain ⟨i, c, hc, hreach, henough, hbefore⟩ := exists_reach ht hne (hsum ▸ hx)
        have htake : ∀ n, running + (((b :: rest).take (n + 1)).map (·.count)).sum =
            running + b.count + ((rest.take n).map (·.count)).sum := fun n => by
          rw [List.take_succ_cons, List.map_cons, List.sum_cons, Nat.add_assoc]
        refine ⟨i + 1, c, hc, ?_, ?_, fun j hj => ?_⟩
        · rw [reach, if_neg (by rw [hle]; simpa using hb)]
          exact hreach
        · rw [htake]
          exact henough
        · rw [htake]
          cases j with
          | zero => simpa using hb
          | succ j => exact hbefore j (Nat.lt_of_succ_lt_succ hj)

/-- **A percentile is the bound of the first bucket that it reaches**, if the counts add up. -/
theorem exists_percentile {h : Histogram} (hsum : (h.buckets.map (·.count)).sum = h.total)
    (htotal : h.total ≠ 0) {percent : Amount} {x : Rat} (hpercent : percent.Denotes x)
    (hx : x ≤ 100) : ∃ i c, h.buckets[i]? = some c ∧
      h.percentile .exact percent = .ok c.bound ∧ h.IsReached x i := by
  obtain ⟨part, hratio, hpart⟩ := hpercent.ratio 100
  have htarget := (Quantity.denotes_finite (h.total : Rat)).times hpart
  have hvalue : (h.total : Rat) * (x / (100 : Nat)) = h.total * x / 100 := by
    rw [Nat.cast_ofNat, mul_div_assoc]
  rw [hvalue] at htarget
  have hne : h.buckets ≠ [] := fun hnil => htotal (by rw [← hsum, hnil]; rfl)
  have hall : (h.total : Rat) * x / 100 ≤ (0 + (h.buckets.map (·.count)).sum : Nat) := by
    rw [Nat.zero_add, hsum, div_le_iff₀ (by norm_num)]
    exact mul_le_mul_of_nonneg_left hx (Nat.cast_nonneg _)
  obtain ⟨i, c, hc, hreach, henough, hbefore⟩ := exists_reach htarget hne hall
  simp only [Nat.zero_add] at henough hbefore
  refine ⟨i, c, hc, ?_, henough, hbefore⟩
  have hreach' : reach (Precision.exact.times (.ofNat h.total) part) 0 h.buckets =
      some c.bound := hreach
  unfold percentile
  rw [if_neg htotal, hratio]
  simp only [ok_bind, hreach']
  rfl

/-! ## 5. What is known of the numbers -/

/-- **What the counts say** about the numbers that were counted. -/
structure Measures (bounds values : List Amount) (h : Histogram) : Prop where
  bounds_eq : h.buckets.map (·.bound) = bounds
  total_eq : h.total = values.length
  sum_counts : (h.buckets.map (·.count)).sum = h.total
  countTo_eq : ∀ i b, bounds[i]? = some b → i + 1 < bounds.length →
    h.countTo i = values.countP (·.le b)

/-- **What a percentile says**: so many numbers do not exceed it, and fewer the bound before it. -/
structure IsPercentile (bounds values : List Amount) (h : Histogram) (percent : Rat) (i : Nat)
    (b : Amount) : Prop where
  bound : bounds[i]? = some b
  reached : h.IsReached percent i
  enough : i + 1 < bounds.length → percent * values.length ≤ 100 * values.countP (·.le b)
  before : ∀ j c, j + 1 = i → bounds[j]? = some c →
    (100 * values.countP (·.le c) : Rat) < percent * values.length

namespace Measures

variable {h : Histogram} (hm : h.Measures bounds values) (hvalues : values ≠ [])
include hm hvalues

theorem percentile {p : Amount} {x : Rat} (hp : p.Denotes x) (hx : x ≤ 100) :
    ∃ i b, h.percentile .exact p = .ok b ∧ h.IsPercentile bounds values x i b := by
  have htotal : h.total ≠ 0 := by
    rw [hm.total_eq]
    exact fun hnil => hvalues (List.length_eq_zero_iff.mp hnil)
  obtain ⟨i, c, hc, hpercentile, hreached⟩ := exists_percentile hm.sum_counts htotal hp hx
  have hb : bounds[i]? = some c.bound := by
    rw [← hm.bounds_eq, List.getElem?_map, hc]
    rfl
  refine ⟨i, c.bound, hpercentile, hb, hreached, fun hi => ?_, fun j b hj hprev => ?_⟩
  · have henough := hreached.enough
    rw [hm.countTo_eq i _ hb hi, hm.total_eq] at henough
    linarith
  · have hlt : j + 1 < bounds.length := hj ▸ (List.getElem?_eq_some_iff.mp hb).1
    have hbefore := hreached.before j (by omega)
    rw [hm.countTo_eq j b hprev hlt, hm.total_eq] at hbefore
    linarith

/-- **Percentiles grow** with the part of the numbers that is asked for. -/
theorem percentile_mono (hscale : IsScale bounds) {p q : Amount} {x y : Rat} (hp : p.Denotes x)
    (hq : q.Denotes y) (hxy : x ≤ y) (hy : y ≤ 100) : ∃ a b, h.percentile .exact p = .ok a ∧
      h.percentile .exact q = .ok b ∧ a.le b = true := by
  obtain ⟨i, a, ha, hi⟩ := hm.percentile hvalues hp (hxy.trans hy)
  obtain ⟨j, b, hb, hj⟩ := hm.percentile hvalues hq hy
  refine ⟨a, b, ha, hb, ?_⟩
  rw [Amount.Denotes.le (hscale.rational a (List.mem_of_getElem? hi.bound))
    (hscale.rational b (List.mem_of_getElem? hj.bound)), decide_eq_true_eq]
  exact hscale.value_le (hi.reached.mono hj.reached hxy) hi.bound hj.bound

end Measures

/-- **What a histogram knows of the numbers that it counted**, if its bounds are a scale and the
    numbers are rationals: how many do not exceed a bound, and between which bounds a percentile
    lies. -/
theorem measures (h : IsScale bounds) (hvalues : ∀ x ∈ values, x.IsRational) :
    ∃ g, values.foldlM (fun g x => g.record .exact x) (ofBounds bounds) = .ok g ∧
      g.Measures bounds values ∧ (values ≠ [] →
        (∀ {p x}, p.Denotes x → x ≤ 100 →
          ∃ i b, g.percentile .exact p = .ok b ∧ g.IsPercentile bounds values x i b) ∧
        ∀ {p q x y}, p.Denotes x → q.Denotes y → x ≤ y → y ≤ 100 → ∃ a b,
          g.percentile .exact p = .ok a ∧ g.percentile .exact q = .ok b ∧ a.le b = true) := by
  obtain ⟨sum, -, hrun⟩ := foldlM_record h values hvalues
  have hm : (ofNumbers bounds values sum).Measures bounds values :=
    ⟨bounds_ofNumbers bounds values sum, rfl, sum_counts_ofNumbers h values sum,
      fun i b hb hi => countTo_ofNumbers h hvalues sum hb hi⟩
  exact ⟨_, hrun, hm, fun hne => ⟨fun hp hx => hm.percentile hne hp hx,
    fun hp hq hxy hy => hm.percentile_mono hne h hp hq hxy hy⟩⟩

/-- Four numbers on a scale of two bounds, one of them beyond it; half of them lie up to the first
    bound. -/
theorem measures_four :
    let bounds : List Amount := [.whole 10, .whole 20]
    let values : List Amount := [.whole 5, .ofRat (31 / 2), .whole 10, .whole 40]
    ∃ g, values.foldlM (fun g x => g.record .exact x) (ofBounds bounds) = .ok g ∧
      g.Measures bounds values ∧ g.countTo 0 = 2 ∧ g.countTo 1 = 4 ∧
      g.percentile .exact (.whole 50) = .ok (.whole 10) ∧
      g.percentile .exact (.ofRat (101 / 2)) = .ok (.whole 20) := by
  intro bounds values
  have hscale : IsScale bounds := ⟨by decide, by decide, by decide⟩
  have hvalues : ∀ x ∈ values, x.IsRational := by decide +kernel
  obtain ⟨g, hg, hm, -⟩ := measures hscale hvalues
  have hrun : values.foldlM (fun g x => g.record .exact x) (ofBounds bounds) =
      .ok ⟨[⟨.whole 10, 2⟩, ⟨.whole 20, 2⟩], 4, .ofRat (141 / 2)⟩ := by decide +kernel
  obtain rfl := Except.ok.inj (hg.symm.trans hrun)
  exact ⟨_, hg, hm, rfl, rfl, by decide +kernel, by decide +kernel⟩

end Histogram

end Worklog
