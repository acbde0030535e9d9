import Mathlib.Data.List.TakeWhile
import Worklog.Proofs.Text.Words
import Worklog.Settings.Path

/-!
# Paths in normal form

A path in normal form is given by its root and its parts, and both can be told from it. So a normal
form has itself as its normal form, and a path that was expanded once is not expanded again.

* `Path.parts_append_slash`: a separator divides the parts of a path;
* `Path.IsPart`, `Path.IsRoot`: what can be a part, and what can be a root;
* `Path.Consists`: what a normal form is made of, and **`Path.Consists.parts_eq`**,
  **`Path.Consists.root_eq`**: its parts and its root are just that;
* **`Path.normalize_twice`**: the normal form of a path is its own;
* `Homes.AreAbsolute`, `Path.exists_consists`: what an expanded path is made of, where home
  directories are absolute paths;
* **`Path.expand_expand`**: an expanded path expands to itself;
* `Path.head_expand`: it does not start with `~`.
-/

namespace Worklog

/-- **The home directories of a system are absolute paths**, as home directories are. -/
structure Homes.AreAbsolute (homes : Homes) : Prop where
  own : Path.isAbsolute homes.own = true
  ofUser : ∀ user h, homes.ofUser? user = some h → Path.isAbsolute h = true

namespace Path

open Text (joinWith joinWith_cons_cons)

/-! ## 1. Parts -/

/-- **What can be a part of a path**: a text without separators that is neither empty nor a single
    point. -/
structure IsPart (p : Text) : Prop where
  ne_nil : p ≠ []
  ne_point : p ≠ ['.']
  noSlash : '/' ∉ p

/-- **A separator divides the parts of a path.** -/
theorem parts_append_slash (s t : Text) : parts (s ++ '/' :: t) = parts s ++ parts t := by
  unfold parts
  rw [List.splitOn_append_cons_self, List.filter_append]

theorem parts_slash (t : Text) : parts ('/' :: t) = parts t := parts_append_slash [] t

theorem notMem_of_mem_splitOn {c : Char} : ∀ {t p : Text}, p ∈ t.splitOn c → c ∉ p
  | [], p, hp => by
      rw [List.splitOn_nil, List.mem_singleton] at hp
      rw [hp]
      exact List.not_mem_nil
  | d :: t, p, hp => by
      rw [List.splitOn_cons_eq_if_modifyHead] at hp
      by_cases hd : d = c
      · rw [if_pos (beq_iff_eq.mpr hd)] at hp
        rcases List.mem_cons.mp hp with rfl | hp
        · exact List.not_mem_nil
        · exact notMem_of_mem_splitOn hp
      · rw [if_neg (mt beq_iff_eq.mp hd)] at hp
        obtain ⟨q, more, hsplit⟩ := List.exists_cons_of_ne_nil (List.splitOn_ne_nil c t)
        have hq : c ∉ q := notMem_of_mem_splitOn (hsplit ▸ List.mem_cons_self)
        rw [hsplit, List.modifyHead_cons] at hp
        rcases List.mem_cons.mp hp with rfl | hp
        · exact fun hc => (List.mem_cons.mp hc).elim (fun e => hd e.symm) hq
        · exact notMem_of_mem_splitOn (hsplit ▸ List.mem_cons_of_mem q hp)

theorem isPart_of_mem {t p : Text} (hp : p ∈ parts t) : IsPart p := by
  obtain ⟨hmem, hkept⟩ := List.mem_filter.mp hp
  rw [Bool.and_eq_true, Bool.not_eq_true', List.isEmpty_eq_false_iff, bne_iff_ne] at hkept
  exact ⟨hkept.1, hkept.2, notMem_of_mem_splitOn hmem⟩

theorem IsPart.parts {p : Text} (h : IsPart p) : parts p = [p] := by
  unfold Path.parts
  rw [List.splitOn_eq_singleton h.noSlash]
  refine List.filter_eq_self.mpr fun q hq => ?_
  rw [List.mem_singleton.mp hq, Bool.and_eq_true, Bool.not_eq_true', List.isEmpty_eq_false_iff,
    bne_iff_ne]
  exact ⟨h.ne_nil, h.ne_point⟩

/-- The parts of the path that parts make. -/
theorem parts_joinWith : ∀ {ps : List Text}, (∀ p ∈ ps, IsPart p) → parts (joinWith ['/'] ps) = ps
  | [], _ => rfl
  | [p], h => (h p List.mem_cons_self).parts
  | p :: q :: rest, h => by
      have ih := parts_joinWith fun r hr => h r (List.mem_cons_of_mem p hr)
      rw [joinWith_cons_cons, List.append_assoc, List.singleton_append, parts_append_slash,
        (h p List.mem_cons_self).parts, ih]
      rfl

/-! ## 2. Roots -/

/-- **What can be the root of a path**: nothing, or one or two separators. -/
inductive IsRoot : Text → Prop where
  | none : IsRoot []
  | one : IsRoot ['/']
  | two : IsRoot ['/', '/']

theorem isRoot_root (t : Text) : IsRoot (root t) := by
  unfold root
  dsimp only
  split
  · exact .none
  · split
    · exact .two
    · exact .one

theorem IsRoot.parts_append {r : Text} (h : IsRoot r) (t : Text) : parts (r ++ t) = parts t := by
  cases h with
  | none => rfl
  | one => exact parts_slash t
  | two => exact (parts_slash ('/' :: t)).trans (parts_slash t)

theorem slashes_eq_nil_iff {t : Text} :
    t.takeWhile (· == '/') = [] ↔ t.head? ≠ some '/' := by
  cases t with
  | nil => simp
  | cons c t => simp [List.takeWhile_cons]

/-- In front of what starts without a separator, a root is all the root there is. -/
theorem IsRoot.root_append {r t : Text} (h : IsRoot r) (ht : t.head? ≠ some '/') :
    root (r ++ t) = r := by
  have hall : ∀ c ∈ r, (c == '/') = true := by
    intro c hc
    cases h with
    | _ => simp_all
  unfold root
  rw [List.takeWhile_append_of_pos hall, slashes_eq_nil_iff.mpr ht, List.append_nil]
  cases h with
  | _ => rfl

/-- A path has no root if it is not absolute. -/
theorem root_eq_nil_iff {t : Text} : root t = [] ↔ ¬isAbsolute t = true := by
  have habsolute : isAbsolute t = true ↔ t.head? = some '/' := beq_iff_eq
  rw [habsolute, ← ne_eq, ← slashes_eq_nil_iff, ← List.length_eq_zero_iff (l := t.takeWhile _)]
  unfold root
  dsimp only
  split
  next hnone => exact iff_of_true rfl hnone
  next hsome =>
    refine iff_of_false ?_ hsome
    split <;> exact List.cons_ne_nil _ _

/-! ## 3. Normal forms -/

/-- **What a normal form is made of**: a root, and parts. -/
structure Consists (t r : Text) (ps : List Text) : Prop where
  isRoot : IsRoot r
  isPart : ∀ p ∈ ps, IsPart p
  eq : t = ofParts r ps

theorem head_joinWith {ps : List Text} (h : ∀ p ∈ ps, IsPart p) :
    (joinWith ['/'] ps).head? = ps.head?.bind List.head? := by
  cases ps with
  | nil => rfl
  | cons p ps =>
      obtain ⟨c, q, rfl⟩ := List.exists_cons_of_ne_nil (h p List.mem_cons_self).ne_nil
      cases ps with
      | nil => rfl
      | cons q ps => rfl

theorem head_joinWith_ne_slash {ps : List Text} (h : ∀ p ∈ ps, IsPart p) :
    (joinWith ['/'] ps).head? ≠ some '/' := by
  rw [head_joinWith h]
  cases ps with
  | nil => exact nofun
  | cons p ps => exact fun hp => (h p List.mem_cons_self).noSlash (List.mem_of_head? hp)

namespace Consists

variable {t r : Text} {ps : List Text} (h : Consists t r ps)
include h

/-- Without root and parts a path is a single point. -/
theorem eq_or_eq : (r = [] ∧ ps = [] ∧ t = ['.']) ∨ t = r ++ joinWith ['/'] ps := by
  have ht := h.eq
  unfold ofParts at ht
  by_cases hnone : (r.isEmpty && ps.isEmpty) = true
  · rw [if_pos hnone] at ht
    rw [Bool.and_eq_true, List.isEmpty_iff, List.isEmpty_iff] at hnone
    exact Or.inl ⟨hnone.1, hnone.2, ht⟩
  · rw [if_neg hnone] at ht
    exact Or.inr ht

/-- **The parts of a normal form** are what it is made of. -/
theorem parts_eq : parts t = ps := by
  rcases h.eq_or_eq with ⟨-, rfl, rfl⟩ | ht
  · rfl
  · rw [ht, h.isRoot.parts_append, parts_joinWith h.isPart]

/-- **The root of a normal form** is what it is made of. -/
theorem root_eq : root t = r := by
  rcases h.eq_or_eq with ⟨rfl, -, rfl⟩ | ht
  · rfl
  · rw [ht, h.isRoot.root_append (head_joinWith_ne_slash h.isPart)]

theorem normalize_eq : normalize t = t := by
  unfold normalize
  rw [h.root_eq, h.parts_eq]
  exact h.eq.symm

/-- A normal form with a root or without `~` in front does not start with `~`. -/
theorem head_ne_tilde (hr : r = [] → ∀ user rest, ps ≠ ('~' :: user) :: rest) :
    t.head? ≠ some '~' := by
  rcases h.eq_or_eq with ⟨-, -, rfl⟩ | ht
  · decide
  · rw [ht]
    cases h.isRoot with
    | none =>
        rw [List.nil_append, head_joinWith h.isPart]
        cases ps with
        | nil => exact nofun
        | cons p ps =>
            intro hp
            obtain ⟨user, rfl⟩ : ∃ user, p = '~' :: user := List.head?_eq_some_iff.mp hp
            exact hr rfl user ps rfl
    | one => exact fun hp => absurd (Option.some.inj hp) (by decide)
    | two => exact fun hp => absurd (Option.some.inj hp) (by decide)

/-- A normal form with a root or without `~` in front stays when it is expanded. -/
theorem expand_eq (hr : r = [] → ∀ user rest, ps ≠ ('~' :: user) :: rest)
    (homes : Homes) : expand homes t = .ok t := by
  unfold expand
  split
  · rw [h.normalize_eq]
  next habsolute =>
    have hroot : r = [] := h.root_eq.symm.trans (root_eq_nil_iff.mpr habsolute)
    split
    next user rest hparts => exact absurd (h.parts_eq.symm.trans hparts) (hr hroot user rest)
    next => rw [h.normalize_eq]

end Consists

theorem consists_normalize (t : Text) : Consists (normalize t) (root t) (parts t) :=
  ⟨isRoot_root t, fun _ => isPart_of_mem, rfl⟩

/-- **The normal form of a path is its own.** -/
theorem normalize_twice (t : Text) : normalize (normalize t) = normalize t :=
  (consists_normalize t).normalize_eq

/-! ## 4. Expanded paths -/

variable {homes : Homes} {t p : Text}

/-- A home directory is absolute, and so it is as the start of a path. -/
theorem isAbsolute_of_find? (hhomes : homes.AreAbsolute) {user h : Text}
    (h' : (homes.find? user).map ofHome = some h) : isAbsolute h = true := by
  obtain ⟨directory, hfound, rfl⟩ := Option.map_eq_some_iff.mp h'
  have hdirectory : isAbsolute directory = true := by
    unfold Homes.find? at hfound
    split at hfound
    · exact Option.some.inj hfound ▸ hhomes.own
    · exact hhomes.ofUser user directory hfound
  unfold ofHome
  split
  · rfl
  · exact hdirectory

/-- **What an expanded path is made of**: it has a root, or no `~` in front. -/
theorem exists_consists (hhomes : homes.AreAbsolute) (h : expand homes t = .ok p) :
    ∃ r ps, Consists p r ps ∧ (r = [] → ∀ user rest, ps ≠ ('~' :: user) :: rest) := by
  unfold expand at h
  split at h
  next habsolute =>
    cases h
    exact ⟨_, _, consists_normalize t, fun hroot => absurd habsolute (root_eq_nil_iff.mp hroot)⟩
  next =>
    split at h
    next user rest hparts =>
      split at h
      next => cases h
      next directory _ hdirectory =>
        cases h
        have hmem : ∀ q ∈ parts directory ++ rest, IsPart q := fun q hq => by
          rcases List.mem_append.mp hq with hq | hq
          · exact isPart_of_mem hq
          · exact isPart_of_mem (hparts ▸ List.mem_cons_of_mem _ hq)
        exact ⟨_, _, ⟨isRoot_root directory, hmem, rfl⟩, fun hroot =>
          absurd (isAbsolute_of_find? hhomes hdirectory) (root_eq_nil_iff.mp hroot)⟩
      next => cases h
    next hother =>
      cases h
      exact ⟨_, _, consists_normalize t, fun _ user rest hparts => hother user rest hparts⟩

section Expanded

variable (hhomes : homes.AreAbsolute) (h : expand homes t = .ok p)
include hhomes h

/-- **An expanded path expands to itself**, wherever the home directories are then. -/
theorem expand_expand (elsewhere : Homes) : expand elsewhere p = .ok p := by
  obtain ⟨r, ps, hp, htilde⟩ := exists_consists hhomes h
  exact hp.expand_eq htilde elsewhere

/-- An expanded path does not start with `~`. -/
theorem head_expand : p.head? ≠ some '~' := by
  obtain ⟨r, ps, hp, htilde⟩ := exists_consists hhomes h
  exact hp.head_ne_tilde htilde

end Expanded

end Path

end Worklog
