import Worklog.Proofs.Query.Executed
import Worklog.Proofs.Query.Normal

/-!
# Queries with one more restriction

A token that excludes a word, or that limits days or lengths, only narrows a query. Behind an
accepted query it stays a token of its own, also in the normal form, and it adds one part to what is
carried out:

* `Query.IsRestriction`: a token that restricts;
* `Query.partOf_tidy_restriction`: a restriction, tidied, restricts in the same way;
* `Query.exists_partOf_tidy`: every token of an accepted query can still be read when it is tidied;
* **`Query.read_append_restriction`**: how a query reads with one more restriction.
-/

namespace Worklog.Query

open Worklog.Text

/-! ## 1. Restrictions -/

/-- **A token that restricts a query**: an exclusion, or a filter for days or lengths. -/
def IsRestriction (t : Text) : Prop :=
  t.head? = some '-' ∨
    (':' ∈ t ∧ ((∃ bound, keyOf? t = some (.day bound)) ∨ ∃ bound, keyOf? t = some (.length bound)))

/-- Whether a part restricts a query. -/
def Part.restricts : Part → Bool
  | .excluded _ => true
  | .day _ => true
  | .length _ => true
  | _ => false

section Token

variable {p : Precision} {now : Moment} {t : Text} {o : Option Part}

theorem hasOperators_of_isRestriction (h : IsRestriction t) : Plan.hasOperators t = true := by
  unfold Plan.hasOperators
  rw [List.any_eq_true]
  rcases h with h | ⟨h, -⟩
  · exact ⟨'-', List.mem_of_mem_head? h, by decide⟩
  · exact ⟨':', h, by decide⟩

/-- A restriction is no word of one character. -/
theorem isLetterWord_of_isRestriction (h : IsRestriction t) : isLetterWord t = false := by
  rw [isLetterWord, hasOperators_of_isRestriction h]
  exact Bool.and_false _

/-- A filter for days or lengths restricts, if it can be read. -/
theorem restricts_filterPart {token value : Text} {key : Key}
    (hkey : (∃ bound, key = .day bound) ∨ ∃ bound, key = .length bound) {part : Part}
    (h : filterPart p now token key value = .ok part) (hno : part.isProblem = false) :
    part.restricts = true := by
  unfold filterPart at h
  split at h
  · cases h
    cases hno
  · rcases hkey with ⟨bound, rfl⟩ | ⟨bound, rfl⟩
    · obtain ⟨day, -, h⟩ := bind_eq_ok.mp h
      cases day with
      | none =>
          cases h
          cases hno
      | some day =>
          cases h
          rfl
    · dsimp only at h
      split at h
      · cases h
        rfl
      · cases h
        cases hno

/-- A token with a known key is a filter. -/
theorem partOf_key {key : Key} (hhead : ∀ rest, t ≠ '-' :: rest) (hcolon : ':' ∈ t)
    (hkey : keyOf? t = some key) :
    partOf p now t = (filterPart p now t key (unquote (valueOf t))).map some := by
  obtain ⟨k, value, rfl, hk⟩ := List.eq_append_cons_of_mem hcolon
  obtain ⟨htake, hdrop⟩ := takeWhile_colon hk value
  rw [keyOf?, htake] at hkey
  rw [partOf_colon hk hhead, colonPart, hkey, valueOf, hdrop]
  rfl

/-- **A restriction, tidied, restricts in the same way.** -/
theorem partOf_tidy_restriction (ht : IsToken t) (h : IsRestriction t)
    (hread : partOf p now t = .ok o) (hno : ∀ part, o = some part → part.isProblem = false) :
    partOf p now (tidy t) = .ok (o.map Part.tidy) ∧
      ∀ part, o = some part → part.tidy.restricts = true := by
  by_cases hhyphen : ∃ rest, t = '-' :: rest
  · obtain ⟨rest, rfl⟩ := hhyphen
    refine ⟨partOf_tidy_excluded hread, fun part hpart => ?_⟩
    cases hread
    unfold nonEmpty at hpart
    split at hpart
    · cases hpart
    · cases hpart
      rfl
  · have hhead : ∀ rest, t ≠ '-' :: rest := fun rest e => hhyphen ⟨rest, e⟩
    obtain ⟨hcolon, hkey⟩ : ':' ∈ t ∧ ((∃ bound, keyOf? t = some (.day bound)) ∨
        ∃ bound, keyOf? t = some (.length bound)) := by
      refine h.resolve_left fun h => ?_
      obtain ⟨rest, h⟩ := List.head?_eq_some_iff.mp h
      exact hhead rest h
    have hsteady : IsSteady t := by
      refine ⟨fun h => absurd hcolon h, fun h => absurd hcolon h, fun h => ?_⟩
      rcases hkey with ⟨bound, hkey⟩ | ⟨bound, hkey⟩
      · rw [hkey] at h
        rcases h with h | h <;> cases h
      · rw [hkey] at h
        rcases h with h | h <;> cases h
    refine ⟨partOf_tidy ht hsteady hread hno, fun part hpart => ?_⟩
    subst hpart
    have hrestricts : part.restricts = true := by
      obtain ⟨key, hof, hbound⟩ : ∃ key, keyOf? t = some key ∧
          ((∃ bound, key = .day bound) ∨ ∃ bound, key = .length bound) := by
        rcases hkey with ⟨bound, hkey⟩ | ⟨bound, hkey⟩
        · exact ⟨_, hkey, Or.inl ⟨bound, rfl⟩⟩
        · exact ⟨_, hkey, Or.inr ⟨bound, rfl⟩⟩
      rw [partOf_key hhead hcolon hof] at hread
      cases hfilter : filterPart p now t key (unquote (valueOf t)) with
      | error fault =>
          rw [hfilter] at hread
          cases hread
      | ok part' =>
          rw [hfilter] at hread
          cases hread
          exact restricts_filterPart hbound hfilter (hno part rfl)
    cases part with
    | _ => exact hrestricts

/-- A hyphen in front, or the lack of a colon, makes a token readable. -/
theorem exists_partOf (h : (∃ rest, t = '-' :: rest) ∨ ':' ∉ t) : ∃ o, partOf p now t = .ok o := by
  by_cases hhyphen : ∃ rest, t = '-' :: rest
  · obtain ⟨rest, rfl⟩ := hhyphen
    exact ⟨_, rfl⟩
  · exact ⟨_, partOf_plain (h.resolve_left hhyphen) fun rest e => hhyphen ⟨rest, e⟩⟩

/-- A filter for apps or for projects can always be read. -/
theorem exists_filterPart {key : Key} (h : key = .app ∨ key = .project) (token value : Text) :
    ∃ part, filterPart p now token key value = .ok part := by
  unfold filterPart
  split
  · exact ⟨_, rfl⟩
  · rcases h with rfl | rfl
    · exact ⟨_, rfl⟩
    · exact ⟨_, rfl⟩

/-- **A token that can be read can be read when it is tidied**, though it may be something else
    then. -/
theorem exists_partOf_tidy (ht : IsToken t) (hread : partOf p now t = .ok o)
    (hno : ∀ part, o = some part → part.isProblem = false) :
    ∃ o', partOf p now (tidy t) = .ok o' := by
  by_cases hsteady : IsSteady t
  · exact ⟨_, partOf_tidy ht hsteady hread hno⟩
  · by_cases hplain : (∃ rest, tidy t = '-' :: rest) ∨ ':' ∉ tidy t
    · exact exists_partOf hplain
    · rw [not_or, not_not] at hplain
      obtain ⟨hhead, hcolon⟩ := hplain
      -- A token that is not steady, and has a colon, asks for an app or a project.
      have hcolon' : ':' ∈ t := mem_of_mem_tidy (by decide) (by decide) (by decide) hcolon
      have hkey : keyOf? t = some .app ∨ keyOf? t = some .project := by
        by_contra hno
        exact hsteady ⟨fun h => absurd hcolon' h, fun h => absurd hcolon' h, fun h => absurd h hno⟩
      obtain ⟨key, value, rfl, hk⟩ := List.eq_append_cons_of_mem hcolon'
      obtain ⟨key', inWord, hsplit, hkey', hsame⟩ := tidy_colon key value hk
      have hof : keyOf? (tidy (key ++ ':' :: value)) = keyOf? (key ++ ':' :: value) := by
        rw [hsplit, keyOf?, (takeWhile_colon hkey' _).1, hsame, keyOf?, (takeWhile_colon hk _).1]
      rw [← hof] at hkey
      obtain ⟨name, hname, hkind⟩ : ∃ name, keyOf? (tidy (key ++ ':' :: value)) = some name ∧
          (name = .app ∨ name = .project) := by
        rcases hkey with hkey | hkey
        · exact ⟨_, hkey, Or.inl rfl⟩
        · exact ⟨_, hkey, Or.inr rfl⟩
      rw [partOf_key (fun rest e => hhead ⟨rest, e⟩) hcolon hname]
      obtain ⟨part, hpart⟩ := exists_filterPart hkind _ _
      rw [hpart]
      exact ⟨_, rfl⟩

end Token

/-! ## 2. One more restriction -/

section Accepted

variable {p : Precision} {now : Moment} {q t : Text}

/-- The parts of a token of an accepted query. -/
theorem parts_of_accepted (h : verdict p now q = .ok none) : isClosed false q = true ∧
    ∀ u ∈ tokens q, IsToken u ∧ partOf p now u = .ok (part? p now u) ∧
      ∀ part, part? p now u = some part → part.isProblem = false := by
  obtain ⟨query, hread, hproblems, -⟩ := read_of_accepted h
  obtain ⟨hclosed, hparts⟩ := parts_of_read hread hproblems
  exact ⟨hclosed, fun u hu => ⟨(mem_tokens hclosed hu).2, hparts u hu⟩⟩

theorem part?_eq {u : Text} {o : Option Part} (h : partOf p now u = .ok o) :
    part? p now u = o := by
  rw [part?, h]
  cases o with
  | _ => rfl

/-- The normal form of an accepted query can be read. -/
theorem read_normalize_ok (h : verdict p now q = .ok none) : read p now (normalize q) =
    .ok (ofParts ((keptTokens q).filterMap (part? p now))) := by
  obtain ⟨hclosed, hparts⟩ := parts_of_accepted h
  have htokens := tokens_normalize hclosed
  rw [← htokens]
  refine read_of_parts (isClosed_normalize hclosed) fun u hu => ?_
  rw [htokens] at hu
  obtain ⟨x, hx, rfl⟩ := List.mem_map.mp hu
  obtain ⟨hx, hread, hno⟩ := hparts x (List.mem_filter.mp hx).1
  obtain ⟨o, ho⟩ := exists_partOf_tidy hx hread hno
  rw [part?_eq ho]
  exact ho

/-- An accepted query asks what its tokens contribute, and something is asked. -/
theorem asks_of_accepted (h : verdict p now q = .ok none) :
    (ofParts ((tokens q).filterMap (part? p now))).problems = [] ∧
      (ofParts ((tokens q).filterMap (part? p now))).isEmpty = false := by
  obtain ⟨hclosed, hparts⟩ := parts_of_accepted h
  obtain ⟨query, hread, hproblems, hasks⟩ := read_of_accepted h
  rw [read_of_parts hclosed fun u hu => (hparts u hu).2.1] at hread
  cases hread
  exact ⟨hproblems, hasks⟩

theorem isEmpty_append {a : Query} (h : a.isEmpty = false) (b : Query) :
    (a.append b).isEmpty = false := by
  rw [Bool.eq_false_iff] at h ⊢
  intro hboth
  simp only [isEmpty, append, Bool.and_eq_true, List.isEmpty_iff, List.append_eq_nil_iff] at hboth
  obtain ⟨⟨⟨⟨⟨⟨ht, -⟩, hx, -⟩, ha, -⟩, hp, -⟩, hd, -⟩, hl, -⟩ := hboth
  refine h ?_
  simp only [isEmpty, ht, hx, ha, hp, hd, hl]
  rfl

variable (hq : verdict p now q = .ok none) (ht : verdict p now t = .ok none)
  (htoken : tokens t = [t])
include hq ht htoken

/-- **A token behind an accepted query** stays a token. -/
theorem tokens_append : tokens (q ++ ' ' :: t) = tokens q ++ [t] ∧
    isClosed false (q ++ ' ' :: t) = true := by
  obtain ⟨hclosed, -⟩ := parts_of_accepted hq
  obtain ⟨hclosed', -⟩ := parts_of_accepted ht
  rw [tokens_append_blank (by decide) hclosed, htoken, isClosed_append hclosed]
  exact ⟨rfl, hclosed'⟩

/-- With another accepted token a query is accepted. -/
theorem verdict_append : verdict p now (q ++ ' ' :: t) = .ok none := by
  obtain ⟨htokens, hclosed⟩ := tokens_append hq ht htoken
  obtain ⟨hproblems, hasks⟩ := asks_of_accepted hq
  obtain ⟨hproblems', -⟩ := asks_of_accepted ht
  rw [htoken] at hproblems'
  have hblank : ¬ isBlankText (q ++ ' ' :: t) = true := by
    intro hblank
    rw [isBlankText, List.all_append, Bool.and_eq_true] at hblank
    have hblank : isBlankText q = true := hblank.1
    unfold verdict at hq
    rw [if_pos hblank] at hq
    cases hq
  have hread : read p now (q ++ ' ' :: t) = .ok ((ofParts ((tokens q).filterMap
      (part? p now))).append (ofParts ([t].filterMap (part? p now)))) := by
    have hparts : ∀ u ∈ tokens q ++ [t], partOf p now u = .ok (part? p now u) := fun u hu => by
      rcases List.mem_append.mp hu with hu | hu
      · exact ((parts_of_accepted hq).2 u hu).2.1
      · exact ((parts_of_accepted ht).2 u (htoken ▸ hu)).2.1
    rw [read_of_parts hclosed (htokens ▸ hparts), htokens, List.filterMap_append, ofParts_append]
  have hnone : ((ofParts ((tokens q).filterMap (part? p now))).append
      (ofParts ([t].filterMap (part? p now)))).problems = [] := by
    unfold append
    dsimp only
    rw [hproblems, hproblems']
    rfl
  unfold verdict
  rw [if_neg hblank, hread]
  show Except.ok (refusal? _) = _
  unfold refusal?
  rw [hnone, isEmpty_append hasks]
  rfl

/-- **A query with one more restriction** reads, in normal form, as the query does with one more
    part that restricts. -/
theorem read_append_restriction (h : IsRestriction t) : ∃ query part,
    read p now (normalize q) = .ok query ∧ part.restricts = true ∧
      read p now (normalize (q ++ ' ' :: t)) = .ok (query.append (ofParts [part])) := by
  obtain ⟨htokens, hclosed⟩ := tokens_append hq ht htoken
  have hkept : keptTokens (q ++ ' ' :: t) = keptTokens q ++ [tidy t] := by
    unfold keptTokens
    rw [htokens, List.filter_append, List.map_append, List.filter_singleton,
      isLetterWord_of_isRestriction h]
    rfl
  obtain ⟨htoken', hread, hno⟩ := (parts_of_accepted ht).2 t (htoken ▸ List.mem_cons_self)
  obtain ⟨part, hpart⟩ : ∃ part, part? p now t = some part := by
    cases hpart : part? p now t with
    | some part => exact ⟨part, rfl⟩
    | none =>
        have hasks := (asks_of_accepted ht).2
        rw [htoken, List.filterMap_cons_none hpart] at hasks
        cases hasks
  obtain ⟨htidy, hrestricts⟩ := partOf_tidy_restriction htoken' h hread hno
  rw [hpart] at htidy
  refine ⟨_, part.tidy, read_normalize_ok hq, hrestricts part hpart, ?_⟩
  rw [read_normalize_ok (verdict_append hq ht htoken), hkept, List.filterMap_append,
    ofParts_append, List.filterMap_cons_some (part?_eq htidy)]
  rfl

end Accepted

end Worklog.Query
