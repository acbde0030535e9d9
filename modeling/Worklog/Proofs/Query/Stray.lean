import Worklog.Proofs.Calendar.Months
import Worklog.Proofs.Query.Contentless
import Worklog.Proofs.Query.Restriction

/-!
# Days outside the calendar

A query can be read at any time, with one exception. Four of the named days can lie outside the
calendar, as the clock stands at one of its ends: the day before its first day, the day after its
last day, the week before its first week and the month before its first month. A query with a day
filter that names such a day strays, and is no query but a fault:

* `Day.Named.start_cases`: which named days have a start;
* `Day.read_cases`: a text strays, or can be read as a day, if only as none;
* `Query.shape`: what a token can be;
* `Query.partOf_cases`: a token strays, or can be read;
* **`Query.read_cases`**, `Query.verdict_cases`: and so it is with a query;
* `Query.not_strays_of_isInner`: nothing strays a year or more from the ends of the calendar.
-/

namespace Worklog

open Text

/-! ## 1. Named days -/

namespace Day

/-- **Whether a named day lies outside the calendar**, where today has the given number. -/
def Named.isBeyond (today : Nat) : Named → Bool
  | .yesterday => today == 0
  | .tomorrow => today + 1 == Moment.dayCount
  | .lastWeek => decide (today < 7)
  | .lastMonth => decide (today < 31)
  | _ => false

/-- **A named day has a start, unless it lies outside the calendar.** -/
theorem Named.start_cases (now : Moment) (name : Named) :
    (name.isBeyond now.ordinal = false ∧ ∃ m, name.start now.midnight = .ok m) ∨
      (name.isBeyond now.ordinal = true ∧ name.start now.midnight = .error .dateOverflow) := by
  have hstarts : now.midnight.StartsDay now.ordinal := now.startsDay_midnight
  have hlt : now.ordinal < Moment.dayCount := now.ordinal_lt
  -- Where the moved day has a number, that decides; where it has none, the move fails.
  have shifted : ∀ days : Int, (0 ≤ (now.ordinal : Int) + days ∧
      (now.ordinal : Int) + days < Moment.dayCount) →
      ∃ m, now.midnight.shiftDays days = .ok m := fun days h => by
    have hto : (now.ordinal : Int) + days = ((now.ordinal + days).toNat : Nat) :=
      (Int.toNat_of_nonneg h.1).symm
    obtain ⟨m, hm, -⟩ := Moment.shiftDays_ok hstarts hto (by omega)
    exact ⟨m, hm⟩
  cases name with
  | today => exact Or.inl ⟨rfl, _, rfl⟩
  | thisMonth => exact Or.inl ⟨rfl, _, rfl⟩
  | yesterday =>
      by_cases hfirst : now.ordinal = 0
      · exact Or.inr ⟨beq_iff_eq.mpr hfirst, Moment.shiftDays_error hstarts (by omega)⟩
      · exact Or.inl ⟨beq_eq_false_iff_ne.mpr hfirst, shifted _ (by omega)⟩
  | tomorrow =>
      by_cases hlast : now.ordinal + 1 = Moment.dayCount
      · exact Or.inr ⟨beq_iff_eq.mpr hlast, Moment.shiftDays_error hstarts (by omega)⟩
      · exact Or.inl ⟨beq_eq_false_iff_ne.mpr hlast, shifted _ (by omega)⟩
  | thisWeek =>
      refine Or.inl ⟨rfl, shifted _ ?_⟩
      rw [Moment.midnight_ordinal, Date.weekday]
      omega
  | lastWeek =>
      have hmonday : 7 ≤ now.ordinal ↔ (0 : Int) ≤ now.ordinal +
          -(Date.weekday now.midnight.ordinal + 7 : Int) := by
        rw [Moment.midnight_ordinal, Date.weekday]
        omega
      by_cases hweek : now.ordinal < 7
      · exact Or.inr ⟨decide_eq_true hweek, Moment.shiftDays_error hstarts (by omega)⟩
      · exact Or.inl ⟨decide_eq_false hweek, shifted _ (by omega)⟩
  | lastMonth =>
      obtain ⟨n, hn, hle, hfirst⟩ := now.midnight.monthStart_spec
      rw [Moment.midnight_ordinal] at hle hfirst
      show (_ ∧ ∃ m, (now.midnight.monthStart.shiftDays (-1) >>= _) = Except.ok m) ∨
        (_ ∧ (now.midnight.monthStart.shiftDays (-1) >>= _) = Except.error Fault.dateOverflow)
      by_cases hmonth : now.ordinal < 31
      · refine Or.inr ⟨decide_eq_true hmonth, ?_⟩
        rw [Moment.shiftDays_error hn (by omega)]
        rfl
      · refine Or.inl ⟨decide_eq_false hmonth, ?_⟩
        have hbefore : (n : Int) + (-1) = (n - 1 : Nat) := by omega
        obtain ⟨m, hm, -⟩ := Moment.shiftDays_ok hn hbefore (by omega)
        rw [hm]
        exact ⟨_, rfl⟩

/-- **Whether a text names a day outside the calendar.** -/
def strays (now : Moment) (t : Text) : Bool :=
  (Named.ofText? (lower (strip t))).any (·.isBeyond now.ordinal)

/-- A name is no date. -/
theorem absolute?_of_named {t : Text} {name : Named} (h : Named.ofText? (lower t) = some name) :
    absolute? t = none := by
  refine absolute?_of_forall fun c hc hmark => ?_
  have hstays : ∀ c ∈ marks, Text.stays c = true := forall_mem_of_all (by decide)
  exact (Named.isPlainPart h c (mem_lowerFrom_of_stays (hstays c hmark) hc)).2.2 hmark

/-- **A text can be read as a day, if only as none, unless it strays.** -/
theorem read_cases (now : Moment) (t : Text) :
    (strays now t = false ∧ ∃ day, read now t = .ok day) ∨
      (strays now t = true ∧ read now t = .error .dateOverflow) := by
  unfold strays read
  cases hname : Named.ofText? (lower (strip t)) with
  | none =>
      refine Or.inl ⟨rfl, ?_⟩
      dsimp only
      rw [hname]
      cases absolute? (strip t) with
      | some m => exact ⟨_, rfl⟩
      | none =>
          cases distance? (strip t) with
          | _ => exact ⟨_, rfl⟩
  | some name =>
      dsimp only
      rw [hname, absolute?_of_named hname]
      rcases Named.start_cases now name with ⟨hin, m, hm⟩ | ⟨hout, herror⟩
      · refine Or.inl ⟨hin, some m, ?_⟩
        dsimp only
        rw [hm]
        rfl
      · refine Or.inr ⟨hout, ?_⟩
        dsimp only
        rw [herror]
        rfl

end Day

/-! ## 2. Queries -/

namespace Query

variable {p : Precision} {now : Moment} {t : Text}

/-- A token is a filter with a known key. -/
structure IsFilter (t : Text) (key : Key) : Prop where
  head : t.head? ≠ some '-'
  colon : ':' ∈ t
  key : keyOf? t = some key

/-- **What a token can be**: an exclusion, a filter, a text with a colon or a text without one. -/
inductive Shape : Text → Prop where
  | excluded (rest : Text) : Shape ('-' :: rest)
  | filter {t : Text} {key : Key} (hfilter : IsFilter t key) : Shape t
  | colon {t : Text} (hhead : t.head? ≠ some '-') (hcolon : ':' ∈ t) (hkey : keyOf? t = none) :
    Shape t
  | plain {t : Text} (hhead : t.head? ≠ some '-') (hcolon : ':' ∉ t) : Shape t

theorem shape (t : Text) : Shape t := by
  by_cases hhead : t.head? = some '-'
  · obtain ⟨rest, rfl⟩ := List.head?_eq_some_iff.mp hhead
    exact .excluded rest
  · by_cases hcolon : ':' ∈ t
    · cases hkey : keyOf? t with
      | none => exact .colon hhead hcolon hkey
      | some key => exact .filter ⟨hhead, hcolon, hkey⟩
    · exact .plain hhead hcolon

theorem ne_hyphen (hhead : t.head? ≠ some '-') (rest : Text) : t ≠ '-' :: rest := fun e =>
  hhead (List.head?_eq_some_iff.mpr ⟨rest, e⟩)

/-- A filter contributes what its value asks for. -/
theorem IsFilter.partOf {key : Key} (h : IsFilter t key) : Query.partOf p now t =
    (filterPart p now t key (unquote (valueOf t))).map some :=
  partOf_key (ne_hyphen h.head) h.colon h.key

/-- A colon behind what is no key belongs to a text. -/
theorem partOf_unknown (hhead : t.head? ≠ some '-') (hcolon : ':' ∈ t) (hkey : keyOf? t = none) :
    partOf p now t = .ok (some (.text t)) := by
  obtain ⟨key, value, rfl, hk⟩ := List.eq_append_cons_of_mem hcolon
  rw [keyOf?, (takeWhile_colon hk value).1] at hkey
  rw [partOf_colon hk (ne_hyphen hhead), colonPart, hkey]
  rfl

/-- Whether a filter with a key and a value names a day outside the calendar. -/
def Key.strays (now : Moment) (value : Text) : Key → Bool
  | .day _ => Day.strays now value
  | _ => false

/-- **Whether a token is a day filter** that names a day outside the calendar. -/
def tokenStrays (now : Moment) (t : Text) : Bool :=
  t.head? != some '-' && (keyOf? t).any (·.strays now (unquote (valueOf t)))

/-- **Whether a query has a token that strays.** -/
def strays (now : Moment) (q : Text) : Bool := (tokens q).any (tokenStrays now)

theorem Key.strays_nil (now : Moment) (key : Key) : key.strays now [] = false := by
  cases key with
  | _ => rfl

/-- A filter can be read, unless it strays. -/
theorem filterPart_cases (p : Precision) (now : Moment) (token : Text) (key : Key)
    (value : Text) :
    (key.strays now value = false ∧ ∃ part, filterPart p now token key value = .ok part) ∨
      (key.strays now value = true ∧
        filterPart p now token key value = .error .dateOverflow) := by
  unfold filterPart
  by_cases hempty : value = []
  · rw [hempty, key.strays_nil]
    exact Or.inl ⟨rfl, _, rfl⟩
  · rw [if_neg fun e => hempty (List.isEmpty_iff.mp e)]
    cases key with
    | app => exact Or.inl ⟨rfl, _, rfl⟩
    | project => exact Or.inl ⟨rfl, _, rfl⟩
    | length bound =>
        refine Or.inl ⟨rfl, ?_⟩
        dsimp only
        cases Duration.parse p value with
        | _ => exact ⟨_, rfl⟩
    | day bound =>
        dsimp only
        rcases Day.read_cases now value with ⟨hin, day, hday⟩ | ⟨hout, herror⟩
        · rw [hday]
          refine Or.inl ⟨hin, ?_⟩
          cases day with
          | _ => exact ⟨_, rfl⟩
        · rw [herror]
          exact Or.inr ⟨hout, rfl⟩

/-- **A token can be read, unless it strays.** -/
theorem partOf_cases (p : Precision) (now : Moment) (t : Text) :
    (tokenStrays now t = false ∧ ∃ o, partOf p now t = .ok o) ∨
      (tokenStrays now t = true ∧ partOf p now t = .error .dateOverflow) := by
  unfold tokenStrays
  cases shape t with
  | excluded rest => exact Or.inl ⟨rfl, _, rfl⟩
  | @filter _ key hfilter =>
      rw [hfilter.partOf, hfilter.key, Option.any_some, bne_iff_ne.mpr hfilter.head, Bool.true_and]
      rcases filterPart_cases p now t key (unquote (valueOf t))
        with ⟨hin, part, hpart⟩ | ⟨hout, herror⟩
      · rw [hpart]
        exact Or.inl ⟨hin, _, rfl⟩
      · rw [herror]
        exact Or.inr ⟨hout, rfl⟩
  | colon hhead hcolon hkey =>
      rw [hkey]
      exact Or.inl ⟨Bool.and_false _, _, partOf_unknown hhead hcolon hkey⟩
  | plain hhead hcolon =>
      -- Without a colon there is no value, and no value strays.
      have hdrop : t.dropWhile (· != ':') = [] := List.dropWhile_eq_nil_iff.mpr fun c hc =>
        bne_iff_ne.mpr fun e => hcolon (e ▸ hc)
      have hvalue : unquote (valueOf t) = [] := by
        rw [valueOf, hdrop]
        rfl
      refine Or.inl ⟨?_, _, partOf_plain hcolon (ne_hyphen hhead)⟩
      rw [hvalue]
      cases keyOf? t with
      | none => exact Bool.and_false _
      | some key => rw [Option.any_some, key.strays_nil, Bool.and_false]

/-- **A query can be read, unless it strays.** -/
theorem read_cases (p : Precision) (now : Moment) (q : Text) :
    (strays now q = false ∧ ∃ query, read p now q = .ok query) ∨
      (strays now q = true ∧ read p now q = .error .dateOverflow) := by
  unfold strays read
  cases hstrays : (tokens q).any (tokenStrays now) with
  | false =>
      refine Or.inl ⟨rfl, ?_⟩
      have hparts : ∀ t ∈ tokens q, partOf p now t = .ok (part? p now t) := fun t ht => by
        rcases partOf_cases p now t with ⟨-, o, ho⟩ | ⟨hout, -⟩
        · rw [part?_eq ho, ho]
        · exact absurd hout (List.any_eq_false.mp hstrays t ht)
      rw [mapM_ok hparts]
      exact ⟨_, rfl⟩
  | true =>
      refine Or.inr ⟨rfl, ?_⟩
      obtain ⟨t, ht, hout⟩ := List.any_eq_true.mp hstrays
      have herror : partOf p now t = .error .dateOverflow := by
        rcases partOf_cases p now t with ⟨hin, -⟩ | ⟨-, h⟩
        · rw [hout] at hin
          cases hin
        · exact h
      have hall : ∀ u ∈ tokens q, (∃ o, partOf p now u = .ok o) ∨
          partOf p now u = .error .dateOverflow := fun u _ =>
        (partOf_cases p now u).imp And.right And.right
      rw [mapM_error hall ht herror]
      rfl

/-- **A query gets a verdict, unless it strays.** -/
theorem verdict_cases (p : Precision) (now : Moment) (q : Text) :
    (strays now q = false ∧ ∃ why, verdict p now q = .ok why) ∨
      (strays now q = true ∧ verdict p now q = .error .dateOverflow) := by
  unfold verdict
  split
  next hblank =>
    refine Or.inl ⟨?_, _, rfl⟩
    rw [strays, tokens_of_isBlankText hblank]
    rfl
  next =>
    rcases read_cases p now q with ⟨hin, query, hread⟩ | ⟨hout, herror⟩
    · rw [hread]
      exact Or.inl ⟨hin, _, rfl⟩
    · rw [herror]
      exact Or.inr ⟨hout, rfl⟩

/-! ## 3. Inside the calendar -/

/-- A year or more from the ends of the calendar, no named day lies outside it. -/
theorem not_isBeyond_of_isInner (h : now.IsInner) (name : Day.Named) :
    name.isBeyond now.ordinal = false := by
  obtain ⟨hfirst, hlast⟩ := h.ordinal
  cases name with
  | yesterday => exact beq_eq_false_iff_ne.mpr (by omega)
  | tomorrow => exact beq_eq_false_iff_ne.mpr (by omega)
  | lastWeek => exact decide_eq_false (by omega)
  | lastMonth => exact decide_eq_false (by omega)
  | _ => rfl

theorem not_dayStrays_of_isInner (h : now.IsInner) (t : Text) : Day.strays now t = false := by
  unfold Day.strays
  cases Day.Named.ofText? (lower (strip t)) with
  | none => rfl
  | some name => exact not_isBeyond_of_isInner h name

/-- **Nothing strays a year or more from the ends of the calendar.** -/
theorem not_strays_of_isInner (h : now.IsInner) (t : Text) : tokenStrays now t = false := by
  unfold tokenStrays
  cases keyOf? t with
  | none => exact Bool.and_false _
  | some key =>
      cases key with
      | day bound =>
          rw [Option.any_some, Key.strays, not_dayStrays_of_isInner h, Bool.and_false]
      | _ => exact Bool.and_false _

end Query

end Worklog
