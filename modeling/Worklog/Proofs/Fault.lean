import Worklog.Fault

/-!
# Lists without faults

A list is read or checked item by item, and the first fault ends it. Where no item has one, reading
is `List.map` and checking is `List.filter`.

* `bind_eq_ok`, `map_eq_ok`: what comes to something does so step by step;
* **`mapM_ok`**, **`filterM_ok`**: lists without faults; `exists_of_mapM`, `mem_of_mapM` and
  `exists_of_filterM` are the way back;
* `filterM_sublist`: what is left of a list; `mapM_error`, `filterM_error`: a list with a fault;
* `filterM_map`: a list in another form.
-/

namespace Worklog

variable {α β : Type}

theorem ok_bind (a : α) (f : α → Except Fault β) : (Except.ok a >>= f) = f a := rfl

/-- Two steps come to something if both do. -/
theorem bind_eq_ok {x : Except Fault α} {f : α → Except Fault β} {b : β} :
    (x >>= f) = .ok b ↔ ∃ a, x = .ok a ∧ f a = .ok b := by
  cases x with
  | ok a =>
      constructor
      · exact fun h => ⟨a, rfl, h⟩
      · rintro ⟨_, ha, h⟩
        cases ha
        exact h
  | error e =>
      constructor
      · exact fun h => nomatch h
      · rintro ⟨_, ha, -⟩
        cases ha

/-- What is made of a value comes to something if the value does. -/
theorem map_eq_ok {x : Except Fault α} {f : α → β} {b : β} :
    x.map f = .ok b ↔ ∃ a, x = .ok a ∧ f a = b := by
  cases x with
  | ok a =>
      constructor
      · exact fun h => ⟨a, rfl, Except.ok.inj h⟩
      · rintro ⟨_, ha, rfl⟩
        cases ha
        rfl
  | error e =>
      constructor
      · exact nofun
      · rintro ⟨_, ha, -⟩
        cases ha

/-- Items that can all be read are read one by one. -/
theorem mapM_ok {f : α → Except Fault β} {g : α → β} : ∀ {l : List α},
    (∀ a ∈ l, f a = .ok (g a)) → l.mapM f = .ok (l.map g)
  | [], _ => rfl
  | a :: l, h => by
      have ih : l.mapM f = .ok (l.map g) := mapM_ok fun b hb => h b (List.mem_cons_of_mem _ hb)
      rw [List.mapM_cons, h a List.mem_cons_self, ih]
      rfl

/-- Where a list can be read, each item can. -/
theorem exists_of_mapM {f : α → Except Fault β} : ∀ {l : List α} {bs : List β},
    l.mapM f = .ok bs → ∀ a ∈ l, ∃ b ∈ bs, f a = .ok b
  | [], _, _, _, ha => absurd ha List.not_mem_nil
  | c :: l, bs, h, a, ha => by
      rw [List.mapM_cons] at h
      obtain ⟨b, hb, h⟩ := bind_eq_ok.mp h
      obtain ⟨more, hmore, h⟩ := bind_eq_ok.mp h
      cases h
      rcases List.mem_cons.mp ha with rfl | ha
      · exact ⟨b, List.mem_cons_self, hb⟩
      · obtain ⟨b', hb', hf⟩ := exists_of_mapM hmore a ha
        exact ⟨b', List.mem_cons_of_mem b hb', hf⟩

/-- What was read of a list was read of one of its members. -/
theorem mem_of_mapM {f : α → Except Fault β} : ∀ {l : List α} {bs : List β},
    l.mapM f = .ok bs → ∀ b ∈ bs, ∃ a ∈ l, f a = .ok b
  | [], _, h, b, hb => by
      cases h
      cases hb
  | a :: l, bs, h, b, hb => by
      rw [List.mapM_cons] at h
      obtain ⟨c, hc, h⟩ := bind_eq_ok.mp h
      obtain ⟨more, hmore, h⟩ := bind_eq_ok.mp h
      cases h
      rcases List.mem_cons.mp hb with rfl | hb
      · exact ⟨a, List.mem_cons_self, hc⟩
      · obtain ⟨a', ha', hf⟩ := mem_of_mapM hmore b hb
        exact ⟨a', List.mem_cons_of_mem a ha', hf⟩

/-- An item that cannot be read ends the reading, if all that can go wrong is the same. -/
theorem mapM_error {f : α → Except Fault β} {e : Fault} : ∀ {l : List α},
    (∀ a ∈ l, (∃ b, f a = .ok b) ∨ f a = .error e) → ∀ {a : α}, a ∈ l → f a = .error e →
    l.mapM f = .error e
  | [], _, _, ha, _ => absurd ha List.not_mem_nil
  | c :: l, h, a, ha, he => by
      rw [List.mapM_cons]
      rcases h c List.mem_cons_self with ⟨b, hb⟩ | hc
      · have hne : a ≠ c := fun e' => by
          rw [e', hb] at he
          cases he
        rw [hb, mapM_error (fun d hd => h d (List.mem_cons_of_mem c hd))
          ((List.mem_cons.mp ha).resolve_left hne) he]
        rfl
      · rw [hc]
        rfl

theorem filterAuxM_eq (f : α → Except Fault Bool) : ∀ l acc : List α,
    l.filterAuxM f acc = (l.filterM f).map fun kept => kept.reverse ++ acc
  | [], _ => rfl
  | a :: l, acc => by
      have hstep : ∀ acc, (a :: l).filterAuxM f acc =
          f a >>= fun b => l.filterAuxM f (cond b (a :: acc) acc) := fun _ => rfl
      unfold List.filterM
      rw [hstep, hstep]
      cases f a with
      | error e => rfl
      | ok b =>
          rw [ok_bind, ok_bind, filterAuxM_eq f l, filterAuxM_eq f l]
          cases l.filterM f with
          | error e => rfl
          | ok kept =>
              show Except.ok _ = Except.ok _
              cases b <;> simp

/-- **Checking goes item by item**: the first is kept if it is passed. -/
theorem filterM_cons (f : α → Except Fault Bool) (a : α) (l : List α) : (a :: l).filterM f =
    f a >>= fun b => (l.filterM f).map fun kept => if b then a :: kept else kept := by
  show (f a >>= fun b => l.filterAuxM f (cond b [a] [])) >>= (fun kept => .ok kept.reverse) = _
  cases f a with
  | error e => rfl
  | ok b =>
      rw [ok_bind, ok_bind, filterAuxM_eq]
      cases l.filterM f with
      | error e => rfl
      | ok kept =>
          show Except.ok _ = Except.ok _
          cases b <;> simp

/-- Items that can all be checked are checked one by one. -/
theorem filterM_ok {f : α → Except Fault Bool} {g : α → Bool} : ∀ {l : List α},
    (∀ a ∈ l, f a = .ok (g a)) → l.filterM f = .ok (l.filter g)
  | [], _ => rfl
  | a :: l, h => by
      rw [filterM_cons, h a List.mem_cons_self, ok_bind,
        filterM_ok fun b hb => h b (List.mem_cons_of_mem a hb), List.filter_cons]
      rfl

/-- What is left of a list stands in its order. -/
theorem filterM_sublist {f : α → Except Fault Bool} : ∀ {l m : List α},
    l.filterM f = .ok m → m.Sublist l
  | [], _, h => by
      cases h
      exact List.Sublist.refl []
  | a :: l, _, h => by
      rw [filterM_cons] at h
      obtain ⟨b, -, h⟩ := bind_eq_ok.mp h
      obtain ⟨kept, hkept, rfl⟩ := map_eq_ok.mp h
      have hsub := filterM_sublist hkept
      cases b with
      | false => exact hsub.cons a
      | true => exact hsub.cons_cons a

/-- Where a list can be checked, each item can. -/
theorem exists_of_filterM {f : α → Except Fault Bool} : ∀ {l m : List α},
    l.filterM f = .ok m → ∀ a ∈ l, ∃ b, f a = .ok b
  | [], _, _, _, ha => absurd ha List.not_mem_nil
  | c :: l, _, h, a, ha => by
      rw [filterM_cons] at h
      obtain ⟨b, hb, h⟩ := bind_eq_ok.mp h
      obtain ⟨kept, hkept, -⟩ := map_eq_ok.mp h
      rcases List.mem_cons.mp ha with rfl | ha
      · exact ⟨b, hb⟩
      · exact exists_of_filterM hkept a ha

/-- An item that cannot be checked ends the checks, if all that can go wrong is the same. -/
theorem filterM_error {f : α → Except Fault Bool} {e : Fault} : ∀ {l : List α},
    (∀ a ∈ l, (∃ b, f a = .ok b) ∨ f a = .error e) → ∀ {a : α}, a ∈ l → f a = .error e →
    l.filterM f = .error e
  | [], _, _, ha, _ => absurd ha List.not_mem_nil
  | c :: l, h, a, ha, he => by
      rw [filterM_cons]
      rcases h c List.mem_cons_self with ⟨b, hb⟩ | hc
      · have hne : a ≠ c := fun e' => by
          rw [e', hb] at he
          cases he
        rw [hb, ok_bind, filterM_error (fun d hd => h d (List.mem_cons_of_mem c hd))
          ((List.mem_cons.mp ha).resolve_left hne) he]
        rfl
      · rw [hc]
        rfl

/-- Items are checked after a change of form as they were before. -/
theorem filterM_map {f : β → Except Fault Bool} (g : α → β) : ∀ l : List α,
    (l.map g).filterM f = (l.filterM fun a => f (g a)).map (·.map g)
  | [] => rfl
  | a :: l => by
      rw [List.map_cons, filterM_cons, filterM_cons, filterM_map g l]
      cases f (g a) with
      | error e => rfl
      | ok b =>
          cases l.filterM fun a => f (g a) with
          | error e => rfl
          | ok kept => cases b <;> rfl

end Worklog
