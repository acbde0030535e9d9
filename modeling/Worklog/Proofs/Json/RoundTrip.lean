import Mathlib.Data.List.DropRight
import Worklog.Proofs.Json.Numbers
import Worklog.Proofs.Json.Strings
import Worklog.Proofs.Fault

/-!
# Documents that are read back

A document that was written over several lines is read as it was, if its numbers are ones that a
document can hold, no object has a key twice and lists and objects are not nested too deep.

* `Json.Writable`: these documents;
* `Json.readValue_plain`: words and numbers as values;
* `Json.readItems_pretty`, `Json.readMembers_pretty`: items and members, one after the other;
* **`Json.readValue_pretty`**, **`Json.read_pretty`**: a document that was written is read.
-/

namespace Worklog

/-- A finite number of binary64: one that double precision keeps. -/
def Quantity.IsDouble : Quantity → Prop
  | .finite x => Precision.double.quantity x = .finite x
  | .negZero => True
  | _ => False

instance : DecidablePred Quantity.IsDouble
  | .finite x => inferInstanceAs (Decidable (Precision.double.quantity x = .finite x))
  | .negZero => .isTrue trivial
  | .infinite _ => .isFalse id
  | .undefined => .isFalse id

namespace Json

open Text Figure

/-- **A document that can be written and read**, with some lists and objects around it. -/
inductive Writable : Nat → Json → Prop where
  | null {depth : Nat} : Writable depth .null
  | bool {depth : Nat} (b : Bool) : Writable depth (.bool b)
  | int {depth : Nat} {n : Int} (h : (Text.ofNat n.natAbs).length ≤ maxDigits) :
      Writable depth (.int n)
  | real {depth : Nat} {q : Quantity} (h : q.IsDouble) : Writable depth (.real q)
  | str {depth : Nat} (t : Text) : Writable depth (.str t)
  | arr {depth : Nat} {items : List Json} (hdepth : depth < maxDepth)
      (h : ∀ v ∈ items, Writable (depth + 1) v) : Writable depth (.arr items)
  | obj {depth : Nat} {members : List (String × Json)} (hdepth : depth < maxDepth)
      (hkeys : (members.map (·.1)).Nodup) (h : ∀ m ∈ members, Writable (depth + 1) m.2) :
      Writable depth (.obj members)

/-! ## 1. Blanks -/

theorem skipBlanks_cons {c : Char} (h : isJsonBlank c = false) (t : Text) :
    skipBlanks (c :: t) = c :: t := by
  unfold skipBlanks
  rw [List.dropWhile_cons_of_neg (by simp [h])]

/-- A line break and what is in front of a line are blanks. -/
theorem skipBlanks_newline (level : Nat) (t : Text) :
    skipBlanks (newline level ++ t) = skipBlanks t := by
  have hspaces : ∀ n,
      (List.replicate n ' ' ++ t).dropWhile isJsonBlank = t.dropWhile isJsonBlank := by
    intro n
    induction n with
    | zero => rfl
    | succ n ih =>
        rw [List.replicate_succ, List.cons_append, List.dropWhile_cons_of_pos rfl, ih]
  unfold skipBlanks newline
  rw [List.cons_append, List.dropWhile_cons_of_pos rfl, hspaces]

theorem skipBlanks_skipBlanks (t : Text) : skipBlanks (skipBlanks t) = skipBlanks t :=
  List.dropWhile_idempotent (p := isJsonBlank) t

theorem readValue_skip (steps depth : Nat) (t : Text) :
    readValue steps depth (skipBlanks t) = readValue steps depth t := by
  cases steps with
  | zero => simp only [readValue]
  | succ steps => simp only [readValue, skipBlanks_skipBlanks]

theorem readItems_skip (steps depth : Nat) (t : Text) :
    readItems steps depth (skipBlanks t) = readItems steps depth t := by
  cases steps with
  | zero => simp only [readItems]
  | succ steps => simp only [readItems, readValue_skip]

theorem readMembers_skip (steps depth : Nat) (ms : List (String × Json)) (t : Text) :
    readMembers steps depth ms (skipBlanks t) = readMembers steps depth ms t := by
  cases steps with
  | zero => simp only [readMembers]
  | succ steps => simp only [readMembers, skipBlanks_skipBlanks]

/-! ## 2. Words and numbers -/

/-- What a word or a number starts with. -/
def isOpening (c : Char) : Bool :=
  isAsciiDigit c || ['-', 'n', 't', 'f', 'N', 'I'].contains c

/-- What is read as a word or a number starts like one. -/
theorem exists_of_plainValue {t : Text} {found : Json × Text} (h : plainValue t = .ok found) :
    ∃ c cs, t = c :: cs ∧ isOpening c = true := by
  cases t with
  | nil => simp [plainValue, word?, wordValues, unsigned, digits] at h
  | cons c cs =>
      refine ⟨c, cs, rfl, ?_⟩
      by_contra hc
      simp only [isOpening, Bool.or_eq_true, List.contains_cons, List.contains_nil, beq_iff_eq,
        not_or, Bool.not_eq_true] at hc
      obtain ⟨hdigit, hminus, hn, ht, hf, hN, hI, -⟩ := hc
      simp [plainValue, word?, wordValues, unsigned, digits, hdigit, hminus, Ne.symm hn, Ne.symm ht,
        Ne.symm hf, Ne.symm hN, Ne.symm hI, Ne.symm hminus] at h

/-- What a word or a number starts with is no blank and opens or closes nothing. -/
theorem ne_of_isOpening {c : Char} (h : isOpening c = true) : isJsonBlank c = false ∧
    c ≠ '"' ∧ c ≠ '[' ∧ c ≠ '\x7b' ∧ c ≠ ']' ∧ c ≠ '\x7d' := by
  rcases Bool.or_eq_true_iff.mp h with hdigit | hletter
  · have hne : ∀ {d : Char}, isAsciiDigit d = false → c ≠ d := ne_of_isAsciiDigit hdigit
    refine ⟨?_, hne rfl, hne rfl, hne rfl, hne rfl, hne rfl⟩
    simp [isJsonBlank, hne (d := ' ') rfl, hne (d := '\n') rfl, hne (d := '\r') rfl,
      hne (d := '\t') rfl]
  · simp only [List.contains_cons, List.contains_nil, Bool.or_eq_true, beq_iff_eq] at hletter
    rcases hletter with rfl | rfl | rfl | rfl | rfl | rfl | hno
    all_goals first | decide | cases hno

/-- **Words and numbers are read as values.** -/
theorem readValue_plain {t : Text} {found : Json × Text} (h : plainValue t = .ok found)
    (steps depth : Nat) : readValue (steps + 1) depth t = .ok found := by
  obtain ⟨c, cs, rfl, hc⟩ := exists_of_plainValue h
  obtain ⟨hblank, hquote, hlist, hobject, -, -⟩ := ne_of_isOpening hc
  rw [readValue, skipBlanks_cons hblank]
  simp [hquote, hlist, hobject, h]

/-- **Words and numbers that were written are read.** -/
theorem plainValue_compact {depth : Nat} {v : Json} (h : Writable depth v)
    (hplain : ∀ t, v ≠ .str t) (hitems : ∀ vs, v ≠ .arr vs) (hmembers : ∀ ms, v ≠ .obj ms)
    {rest : Text} (hrest : Ends rest) : plainValue (compact v ++ rest) = .ok (v, rest) := by
  cases h with
  | null => rfl
  | bool b => cases b <;> rfl
  | int h => exact plainValue_ofInt _ hrest h
  | @real _ q h =>
      cases q with
      | finite x => exact plainValue_shortest h hrest
      | negZero => exact plainValue_zero true hrest
      | infinite negative => exact h.elim
      | undefined => exact h.elim
  | str t => exact absurd rfl (hplain t)
  | arr _ _ => exact absurd rfl (hitems _)
  | obj _ _ _ => exact absurd rfl (hmembers _)

/-! ## 3. Lists and objects -/

/-- **A value is read back** at a depth, wherever it was written and whatever may stand behind it.
    As many steps are enough as it has characters. -/
def Reads (depth : Nat) (v : Json) : Prop :=
  ∀ (steps level : Nat) (rest : Text), (prettyAt level v).length ≤ steps → Ends rest →
    readValue steps depth (prettyAt level v ++ rest) = .ok (v, rest)

/-- A value starts with a character that is no blank and closes nothing. -/
theorem exists_prettyAt {depth : Nat} {v : Json} (h : Writable depth v) (level : Nat) :
    ∃ c cs, prettyAt level v = c :: cs ∧ isJsonBlank c = false ∧ c ≠ ']' ∧ c ≠ '\x7d' := by
  have hplain : (∀ t, v ≠ .str t) → (∀ vs, v ≠ .arr vs) → (∀ ms, v ≠ .obj ms) →
      ∃ c cs, compact v = c :: cs ∧ isJsonBlank c = false ∧ c ≠ ']' ∧ c ≠ '\x7d' := by
    intro hstr harr hobj
    have hends : Ends [] := fun c hc => nomatch hc
    have hread := plainValue_compact h hstr harr hobj hends
    rw [List.append_nil] at hread
    obtain ⟨c, cs, htext, hc⟩ := exists_of_plainValue hread
    obtain ⟨hblank, -, -, -, hitems, hmembers⟩ := ne_of_isOpening hc
    exact ⟨c, cs, htext, hblank, hitems, hmembers⟩
  cases v with
  | str t => exact ⟨_, _, rfl, by decide⟩
  | arr items => cases items <;> exact ⟨_, _, rfl, by decide⟩
  | obj members => cases members <;> exact ⟨_, _, rfl, by decide⟩
  | _ => exact hplain (by simp) (by simp) (by simp)

theorem ends_newline (level : Nat) (t : Text) : Ends (newline level ++ t) := by
  intro c hc
  cases hc
  decide

theorem ends_comma (t : Text) : Ends (',' :: t) := by
  intro c hc
  cases hc
  decide

/-- A value is read behind a line break. -/
theorem Reads.newline {depth : Nat} {v : Json} (h : Reads depth v) {steps level : Nat} {rest : Text}
    (hsteps : (prettyAt level v).length ≤ steps) (hrest : Ends rest) (l : Nat) :
    readValue steps depth (newline l ++ (prettyAt level v ++ rest)) = .ok (v, rest) := by
  rw [← readValue_skip, skipBlanks_newline, readValue_skip]
  exact h _ _ _ hsteps hrest

theorem length_newline_pos (level : Nat) : 1 ≤ (newline level).length := Nat.le_add_left 1 _

/-- **Items are read** one after the other. -/
theorem readItems_pretty {depth level l : Nat} {after : Text} : ∀ {items : List Json} {steps : Nat},
    items ≠ [] → (∀ v ∈ items, Reads depth v) → (prettyItems level items).length ≤ steps →
      readItems steps depth (prettyItems level items ++ (newline l ++ ']' :: after)) =
        .ok (items, after)
  | [], _, hne, _, _ => absurd rfl hne
  | [v], steps, _, h, hsteps => by
      have hbreak := length_newline_pos level
      rw [prettyItems, List.length_append] at hsteps
      obtain ⟨s, rfl⟩ : ∃ s, steps = s + 1 := ⟨steps - 1, by omega⟩
      have hlength : (prettyAt level v).length ≤ s := by omega
      have hread := (h v List.mem_cons_self).newline hlength (ends_newline l (']' :: after)) level
      rw [prettyItems, List.append_assoc, readItems, hread]
      simp only [bind, Except.bind]
      rw [skipBlanks_newline]
      rfl
  | v :: w :: rest, steps, _, h, hsteps => by
      have hbreak := length_newline_pos level
      rw [prettyItems, List.length_append, List.length_append, List.length_cons] at hsteps
      obtain ⟨s, rfl⟩ : ∃ s, steps = s + 1 := ⟨steps - 1, by omega⟩
      have hlength : (prettyAt level v).length ≤ s := by omega
      have hlengths : (prettyItems level (w :: rest)).length ≤ s := by omega
      have hread := (h v List.mem_cons_self).newline hlength
        (ends_comma (prettyItems level (w :: rest) ++ (newline l ++ ']' :: after))) level
      have hrest : readItems s depth
          (prettyItems level (w :: rest) ++ (newline l ++ ']' :: after)) = .ok (w :: rest, after) :=
        readItems_pretty (List.cons_ne_nil _ _) (fun u hu => h u (List.mem_cons_of_mem v hu))
          hlengths
      rw [prettyItems, List.append_assoc, List.append_assoc, List.cons_append, readItems, hread]
      simp only [bind, Except.bind]
      rw [skipBlanks_cons rfl]
      simp only [hrest]
      rfl

/-- A key that is new goes to the end. -/
theorem putMember_of_notMem {key : String} (v : Json) : ∀ {ms : List (String × Json)},
    key ∉ ms.map (·.1) → putMember key v ms = ms ++ [(key, v)]
  | [], _ => rfl
  | (k, w) :: ms, h => by
      rw [List.map_cons, List.mem_cons, not_or] at h
      rw [putMember, if_neg (Ne.symm h.1), putMember_of_notMem v h.2, List.cons_append]

theorem notMem_keys {before rest : List (String × Json)} {key : String} {v : Json}
    (h : ((before ++ (key, v) :: rest).map (·.1)).Nodup) : key ∉ before.map (·.1) := by
  rw [List.map_append, List.nodup_append] at h
  exact fun hkey => h.2.2 key hkey key List.mem_cons_self rfl

/-- A member is read, and then what stands behind it. -/
theorem readMembers_step {depth steps level : Nat} {v : Json} (h : Reads depth v)
    (hsteps : (prettyAt level v).length ≤ steps) {tail : Text} (htail : Ends tail) (key : String)
    (before : List (String × Json)) :
    readMembers (steps + 1) depth before (newline level ++ stringText key.toList ++ ": ".toList ++
        prettyAt level v ++ tail) =
      match skipBlanks tail with
      | ',' :: rest => readMembers steps depth (putMember key v before) rest
      | '\x7d' :: after => .ok (putMember key v before, after)
      | _ => .error .malformedJson := by
  have hstring := string?_escaped key.toList (':' :: ' ' :: (prettyAt level v ++ tail))
  have hskip : skipBlanks (' ' :: (prettyAt level v ++ tail)) =
      skipBlanks (prettyAt level v ++ tail) := rfl
  have hspace : readValue steps depth (' ' :: (prettyAt level v ++ tail)) = .ok (v, tail) := by
    rw [← readValue_skip, hskip, readValue_skip]
    exact h _ _ _ hsteps htail
  have htext : newline level ++ stringText key.toList ++ ": ".toList ++ prettyAt level v ++ tail =
      newline level ++ '"' :: (key.toList.flatMap escapeChar ++ '"' ::
        ':' :: ' ' :: (prettyAt level v ++ tail)) := by
    simp [stringText]
  rw [htext, readMembers, skipBlanks_newline, skipBlanks_cons rfl]
  simp only [hstring, orMalformed, bind, Except.bind]
  rw [skipBlanks_cons rfl]
  simp only [hspace, String.ofList_toList]
  rfl

/-- **Members are read** one after the other, behind those that were read before. -/
theorem readMembers_pretty {depth level l : Nat} {after : Text} :
    ∀ {members before : List (String × Json)} {steps : Nat}, members ≠ [] →
      ((before ++ members).map (·.1)).Nodup → (∀ m ∈ members, Reads depth m.2) →
      (prettyMembers level members).length ≤ steps →
      readMembers steps depth before
          (prettyMembers level members ++ (newline l ++ '\x7d' :: after)) =
        .ok (before ++ members, after)
  | [], _, _, hne, _, _, _ => absurd rfl hne
  | [(k, v)], before, steps, _, hkeys, h, hsteps => by
      have hbreak := length_newline_pos level
      rw [prettyMembers] at hsteps
      simp only [List.length_append] at hsteps
      obtain ⟨s, rfl⟩ : ∃ s, steps = s + 1 := ⟨steps - 1, by omega⟩
      have hlength : (prettyAt level v).length ≤ s := by omega
      have hnew : k ∉ before.map (·.1) := notMem_keys hkeys
      rw [prettyMembers, readMembers_step (h _ List.mem_cons_self) hlength (ends_newline l _),
        skipBlanks_newline, skipBlanks_cons rfl, putMember_of_notMem v hnew]
      rfl
  | (k, v) :: m :: rest, before, steps, _, hkeys, h, hsteps => by
      have hbreak := length_newline_pos level
      rw [prettyMembers] at hsteps
      simp only [List.length_append, List.length_cons] at hsteps
      obtain ⟨s, rfl⟩ : ∃ s, steps = s + 1 := ⟨steps - 1, by omega⟩
      have hlength : (prettyAt level v).length ≤ s := by omega
      have hlengths : (prettyMembers level (m :: rest)).length ≤ s := by omega
      have hnew : k ∉ before.map (·.1) := notMem_keys hkeys
      have hrest : readMembers s depth (before ++ [(k, v)])
          (prettyMembers level (m :: rest) ++ (newline l ++ '\x7d' :: after)) =
            .ok (before ++ [(k, v)] ++ m :: rest, after) :=
        readMembers_pretty (List.cons_ne_nil _ _) (by rwa [List.append_assoc])
          (fun u hu => h u (List.mem_cons_of_mem _ hu)) hlengths
      rw [prettyMembers, List.append_assoc, List.cons_append,
        readMembers_step (h _ List.mem_cons_self) hlength (ends_comma _), skipBlanks_cons rfl,
        putMember_of_notMem v hnew]
      rw [List.append_assoc] at hrest
      exact hrest

/-- A list with items is read. -/
theorem readValue_arr {steps depth : Nat} (hdepth : depth < maxDepth) {text after : Text}
    {items : List Json} (hopen : ∀ rest, skipBlanks text ≠ ']' :: rest)
    (h : readItems steps (depth + 1) text = .ok (items, after)) :
    readValue (steps + 1) depth ('[' :: text) = .ok (.arr items, after) := by
  rw [← readItems_skip] at h
  rw [readValue, skipBlanks_cons rfl]
  simp only [hdepth.not_ge, if_false, h]
  rfl

/-- An object with members is read. -/
theorem readValue_obj {steps depth : Nat} (hdepth : depth < maxDepth) {text after : Text}
    {members : List (String × Json)} (hopen : ∀ rest, skipBlanks text ≠ '\x7d' :: rest)
    (h : readMembers steps (depth + 1) [] text = .ok (members, after)) :
    readValue (steps + 1) depth ('\x7b' :: text) = .ok (.obj members, after) := by
  rw [← readMembers_skip] at h
  rw [readValue, skipBlanks_cons rfl]
  simp only [hdepth.not_ge, if_false, h]
  rfl

/-- Items start with a line break and the first of them. -/
theorem skipBlanks_items {depth : Nat} {v : Json} (h : Writable depth v) (level : Nat)
    (vs : List Json) (t rest : Text) :
    skipBlanks (prettyItems level (v :: vs) ++ t) ≠ ']' :: rest := by
  obtain ⟨c, cs, htext, hblank, hclose, -⟩ := exists_prettyAt h level
  obtain ⟨tail, htail⟩ : ∃ tail, prettyItems level (v :: vs) = newline level ++ c :: tail := by
    cases vs with
    | nil => exact ⟨cs, by rw [prettyItems, htext]⟩
    | cons w vs => exact ⟨cs ++ ',' :: prettyItems level (w :: vs), by simp [prettyItems, htext]⟩
  rw [htail, List.append_assoc, skipBlanks_newline, List.cons_append, skipBlanks_cons hblank]
  exact fun heq => hclose (List.head_eq_of_cons_eq heq)

/-- Members start with a line break and a quote. -/
theorem skipBlanks_members (m : String × Json) (level : Nat) (ms : List (String × Json))
    (t rest : Text) : skipBlanks (prettyMembers level (m :: ms) ++ t) ≠ '\x7d' :: rest := by
  obtain ⟨tail, htail⟩ : ∃ tail, prettyMembers level (m :: ms) = newline level ++ '"' :: tail := by
    cases ms with
    | nil => exact ⟨_, by simp only [prettyMembers, stringText, List.append_assoc]; rfl⟩
    | cons n ms => exact ⟨_, by simp only [prettyMembers, stringText, List.append_assoc]; rfl⟩
  rw [htail, List.append_assoc, skipBlanks_newline, List.cons_append, skipBlanks_cons rfl]
  exact fun heq => absurd (List.head_eq_of_cons_eq heq) (by decide)

/-- There is a step for every value. -/
theorem exists_steps {depth : Nat} {v : Json} (h : Writable depth v) {steps level : Nat}
    (hsteps : (prettyAt level v).length ≤ steps) : ∃ s, steps = s + 1 := by
  obtain ⟨c, cs, htext, -⟩ := exists_prettyAt h level
  rw [htext, List.length_cons] at hsteps
  exact ⟨steps - 1, by omega⟩

/-- Words and numbers that were written are read as values. -/
theorem reads_plain {depth : Nat} {v : Json} (h : Writable depth v) (hstr : ∀ t, v ≠ .str t)
    (harr : ∀ vs, v ≠ .arr vs) (hobj : ∀ ms, v ≠ .obj ms)
    (htext : ∀ level, prettyAt level v = compact v) : Reads depth v := by
  intro steps level rest hsteps hrest
  obtain ⟨s, rfl⟩ := exists_steps h hsteps
  rw [htext]
  exact readValue_plain (plainValue_compact h hstr harr hobj hrest) s depth

/-- Texts are read. -/
theorem reads_str (depth : Nat) (t : Text) : Reads depth (.str t) := by
  intro steps level rest hsteps _
  obtain ⟨s, rfl⟩ := exists_steps (show Writable depth (.str t) from .str t) hsteps
  have htext : prettyAt level (.str t) = '"' :: (t.flatMap escapeChar ++ ['"']) := rfl
  rw [htext, List.cons_append, List.append_assoc, readValue, skipBlanks_cons rfl]
  simp only [List.singleton_append, string?_escaped]
  rfl

/-- **A list is read**, if its items are. -/
theorem reads_arr {depth : Nat} {items : List Json} (hdepth : depth < maxDepth)
    (h : ∀ v ∈ items, Writable (depth + 1) v) (hread : ∀ v ∈ items, Reads (depth + 1) v) :
    Reads depth (.arr items) := by
  intro steps level rest hsteps _
  obtain ⟨s, rfl⟩ := exists_steps (.arr hdepth h) hsteps
  cases items with
  | nil =>
      have htext : prettyAt level (.arr []) = ['[', ']'] := rfl
      rw [htext, List.cons_append, List.singleton_append, readValue, skipBlanks_cons rfl]
      simp only [hdepth.not_ge, if_false, skipBlanks_cons (c := ']') rfl]
  | cons v vs =>
      have htext : prettyAt level (.arr (v :: vs)) =
          '[' :: (prettyItems (level + 1) (v :: vs) ++ (newline level ++ [']'])) := by
        simp [prettyAt]
      rw [htext, List.length_cons, List.length_append] at hsteps
      have hlength : (prettyItems (level + 1) (v :: vs)).length ≤ s := by omega
      rw [htext, List.cons_append, List.append_assoc, List.append_assoc]
      exact readValue_arr hdepth (skipBlanks_items (h v List.mem_cons_self) _ vs _)
        (readItems_pretty (List.cons_ne_nil v vs) hread hlength)

/-- **An object is read**, if its members are and no key comes twice. -/
theorem reads_obj {depth : Nat} {members : List (String × Json)} (hdepth : depth < maxDepth)
    (hkeys : (members.map (·.1)).Nodup) (h : ∀ m ∈ members, Writable (depth + 1) m.2)
    (hread : ∀ m ∈ members, Reads (depth + 1) m.2) : Reads depth (.obj members) := by
  intro steps level rest hsteps _
  obtain ⟨s, rfl⟩ := exists_steps (.obj hdepth hkeys h) hsteps
  cases members with
  | nil =>
      have htext : prettyAt level (.obj []) = ['\x7b', '\x7d'] := rfl
      rw [htext, List.cons_append, List.singleton_append, readValue, skipBlanks_cons rfl]
      simp only [hdepth.not_ge, if_false, skipBlanks_cons (c := '\x7d') rfl]
  | cons m ms =>
      have htext : prettyAt level (.obj (m :: ms)) =
          '\x7b' :: (prettyMembers (level + 1) (m :: ms) ++ (newline level ++ ['\x7d'])) := by
        simp [prettyAt]
      rw [htext, List.length_cons, List.length_append] at hsteps
      have hlength : (prettyMembers (level + 1) (m :: ms)).length ≤ s := by omega
      rw [htext, List.cons_append, List.append_assoc, List.append_assoc]
      exact readValue_obj hdepth (skipBlanks_members m _ ms _)
        (readMembers_pretty (List.cons_ne_nil m ms) hkeys hread hlength)

/-- **A value that was written is read.** -/
theorem readValue_pretty {depth : Nat} {v : Json} (h : Writable depth v) : Reads depth v := by
  induction h with
  | null => exact reads_plain .null (by simp) (by simp) (by simp) fun _ => rfl
  | bool b => exact reads_plain (.bool b) (by simp) (by simp) (by simp) fun _ => rfl
  | int h => exact reads_plain (.int h) (by simp) (by simp) (by simp) fun _ => rfl
  | real h => exact reads_plain (.real h) (by simp) (by simp) (by simp) fun _ => rfl
  | str t => exact reads_str _ t
  | arr hdepth h ih => exact reads_arr hdepth h ih
  | obj hdepth hkeys h ih => exact reads_obj hdepth hkeys h ih

/-- **A document that was written is read.** -/
theorem read_pretty {v : Json} (h : Writable 0 v) : Json.read (pretty v) = .ok v := by
  have hsteps : (pretty v).length ≤ 2 * (pretty v).length + 2 := by omega
  have hread := readValue_pretty h _ 0 [] hsteps fun c hc => nomatch hc
  rw [List.append_nil] at hread
  unfold Json.read
  rw [show readValue (2 * (pretty v).length + 2) 0 (pretty v) = .ok (v, []) from hread]
  rfl

end Json

end Worklog
