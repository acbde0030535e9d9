import Mathlib.Tactic.IntervalCases
import Worklog.Json.Printer
import Worklog.Json.Reader
import Worklog.Proofs.Text.Digits

/-!
# Strings that are read back

A text is written character by character: most characters of ASCII stand for themselves, some have
an escape of one letter, and all others are escaped by their UTF-16 units. Each of them comes back
as the same units, and the units as the same text.

* `Json.hex_eq`, `Json.hexUnit?_digits`: a unit in four hexadecimal digits;
* `Json.unitsOf`: the units of a character;
* `Json.stringUnits?_escapeChar`: an escaped character is read as its units;
* `Json.ofUnits_unitsOf`: the units of a character are read as the character;
* **`Json.string?_escaped`**: a text that was written is read.
-/

namespace Worklog.Json

open Text

/-! ## 1. Units in hexadecimal digits -/

theorem hexValue?_digitChar {n : Nat} (h : n < 16) : hexValue? n.digitChar = some n := by
  interval_cases n <;> rfl

/-- A unit in four digits. -/
theorem hex_eq {n : Nat} (h : n < 0x10000) : hex 4 n =
    [(n / 16 / 16 / 16).digitChar, (n / 16 / 16 % 16).digitChar, (n / 16 % 16).digitChar,
      (n % 16).digitChar] := by
  have hfirst : n / 16 / 16 / 16 < 16 := by omega
  unfold hex
  rw [padded_succ (by decide) (by decide), padded_succ (by decide) (by decide),
    padded_succ (by decide) (by decide), Nat.toDigits_of_lt_base hfirst]
  rfl

/-- Four digits name their unit. -/
theorem hexUnit?_digits {n : Nat} (h : n < 0x10000) :
    hexUnit? (n / 16 / 16 / 16).digitChar (n / 16 / 16 % 16).digitChar (n / 16 % 16).digitChar
      (n % 16).digitChar = some n := by
  have hfirst : n / 16 / 16 / 16 < 16 := by omega
  have hsum :
      ((n / 16 / 16 / 16 * 16 + n / 16 / 16 % 16) * 16 + n / 16 % 16) * 16 + n % 16 = n := by
    omega
  have hdigit : ∀ m : Nat, m % 16 < 16 := fun m => Nat.mod_lt m (by decide)
  unfold hexUnit?
  simp only [hexValue?_digitChar hfirst, hexValue?_digitChar (hdigit _), Option.bind_eq_bind,
    Option.bind_some, hsum]
  rfl

/-! ## 2. Escapes -/

/-- What is read of a string with one more unit in front. -/
def withUnit (n : Nat) (read : Option (List Nat × Text)) : Option (List Nat × Text) :=
  read.map fun (units, after) => (n :: units, after)

/-- The escape of a unit is read as the unit. -/
theorem stringUnits?_unitEscape {n : Nat} (h : n < 0x10000) (rest : Text) :
    stringUnits? (unitEscape n ++ rest) = withUnit n (stringUnits? rest) := by
  unfold unitEscape
  rw [hex_eq h]
  show stringUnits? ('\\' :: 'u' :: _ :: _ :: _ :: _ :: rest) = _
  rw [stringUnits?, hexUnit?_digits h]
  cases stringUnits? rest <;> rfl

/-- An escape of one letter is read as what it stands for. -/
theorem stringUnits?_letter {e : Char} {n : Nat} (he : e ≠ 'u') (h : simpleEscape? e = some n)
    (rest : Text) : stringUnits? ('\\' :: e :: rest) = withUnit n (stringUnits? rest) := by
  rw [stringUnits?, h]
  · cases stringUnits? rest <;> rfl
  · rintro - - - - - rfl
    exact absurd rfl he

/-- Another character stands for itself. -/
theorem stringUnits?_plain {c : Char} (hquote : c ≠ '"') (hslash : c ≠ '\\') (h : 0x20 ≤ c.toNat)
    (rest : Text) : stringUnits? (c :: rest) = withUnit c.toNat (stringUnits? rest) := by
  rw [stringUnits?, if_neg h.not_gt]
  · cases stringUnits? rest <;> rfl
  · rintro rfl
    exact hquote rfl
  · exact fun _ _ _ _ _ h => absurd h hslash
  · exact fun _ _ h => absurd h hslash

/-! ## 3. Characters -/

/-- **The UTF-16 units of a character.** -/
def unitsOf (c : Char) : List Nat :=
  if c.toNat < 0x10000 then [c.toNat]
  else [0xD800 + (c.toNat - 0x10000) / 0x400, 0xDC00 + (c.toNat - 0x10000) % 0x400]

theorem toNat_lt (c : Char) : c.toNat < 0xD800 ∨ 0xDFFF < c.toNat ∧ c.toNat < 0x110000 := c.valid

/-- **The units of a character are read as the character.** -/
theorem ofUnits_unitsOf (c : Char) (units : List Nat) :
    ofUnits (unitsOf c ++ units) = c :: ofUnits units := by
  have hvalid := toNat_lt c
  unfold unitsOf
  split
  next hsmall =>
    have hplain : (decide (0xD800 ≤ c.toNat) && decide (c.toNat < 0xE000)) = false := by
      simp
      omega
    cases units with
    | nil =>
        show [if _ then _ else _] = _
        rw [hplain, if_neg Bool.false_ne_true, Char.ofNat_toNat]
        rfl
    | cons m units =>
        have hlone : (decide (0xD800 ≤ c.toNat) && decide (c.toNat < 0xDC00) &&
            decide (0xDC00 ≤ m) && decide (m < 0xE000)) = false := by
          simp
          omega
        rw [List.singleton_append, ofUnits, hlone, if_neg Bool.false_ne_true, hplain,
          if_neg Bool.false_ne_true, Char.ofNat_toNat]
  next hlarge =>
    have hpair : (decide (0xD800 ≤ 0xD800 + (c.toNat - 0x10000) / 0x400) &&
        decide (0xD800 + (c.toNat - 0x10000) / 0x400 < 0xDC00) &&
        decide (0xDC00 ≤ 0xDC00 + (c.toNat - 0x10000) % 0x400) &&
        decide (0xDC00 + (c.toNat - 0x10000) % 0x400 < 0xE000)) = true := by
      simp
      omega
    have hsum : 0x10000 + (0xD800 + (c.toNat - 0x10000) / 0x400 - 0xD800) * 0x400 +
        (0xDC00 + (c.toNat - 0x10000) % 0x400 - 0xDC00) = c.toNat := by omega
    rw [List.cons_append, List.singleton_append, ofUnits, hpair, if_pos rfl, hsum,
      Char.ofNat_toNat]

/-- **An escaped character is read as its units.** -/
theorem stringUnits?_escapeChar (c : Char) (rest : Text) :
    stringUnits? (escapeChar c ++ rest) =
      (stringUnits? rest).map fun (units, after) => (unitsOf c ++ units, after) := by
  have hvalid := toNat_lt c
  have hbmp : c.toNat < 0x10000 → withUnit c.toNat (stringUnits? rest) =
      (stringUnits? rest).map fun (units, after) => (unitsOf c ++ units, after) := fun h => by
    unfold withUnit unitsOf
    rw [if_pos h]
    rfl
  have hletter : ∀ {n : Nat} (e : Char), c.toNat = n → n < 0x10000 → e ≠ 'u' →
      simpleEscape? e = some n → stringUnits? ('\\' :: e :: rest) =
        (stringUnits? rest).map fun (units, after) => (unitsOf c ++ units, after) :=
    fun e hn hsmall he hescape => by
      rw [stringUnits?_letter he hescape, ← hn]
      exact hbmp (hn ▸ hsmall)
  unfold escapeChar
  dsimp only
  split
  next hspecial =>
    rcases (Bool.or_eq_true_iff.mp hspecial).imp eq_of_beq eq_of_beq with rfl | rfl
    · exact hletter '"' rfl (by decide) (by decide) rfl
    · exact hletter '\\' rfl (by decide) (by decide) rfl
  next hspecial =>
    obtain ⟨hquote, hslash⟩ : c ≠ '"' ∧ c ≠ '\\' := by simpa using hspecial
    split
    next hn => exact hletter 'b' (eq_of_beq hn) (by decide) (by decide) rfl
    split
    next hn => exact hletter 't' (eq_of_beq hn) (by decide) (by decide) rfl
    split
    next hn => exact hletter 'n' (eq_of_beq hn) (by decide) (by decide) rfl
    split
    next hn => exact hletter 'f' (eq_of_beq hn) (by decide) (by decide) rfl
    split
    next hn => exact hletter 'r' (eq_of_beq hn) (by decide) (by decide) rfl
    split
    next hascii =>
      obtain ⟨hle, hlt⟩ : 0x20 ≤ c.toNat ∧ c.toNat < 0x7F := by simpa using hascii
      rw [List.singleton_append, stringUnits?_plain hquote hslash hle]
      exact hbmp (by omega)
    split
    next hsmall =>
      rw [stringUnits?_unitEscape hsmall]
      exact hbmp hsmall
    next hlarge =>
      rw [List.append_assoc, stringUnits?_unitEscape (by omega), stringUnits?_unitEscape (by omega)]
      unfold withUnit unitsOf
      rw [if_neg hlarge]
      cases stringUnits? rest <;> rfl

/-! ## 4. Texts -/

/-- **A text that was written is read**, up to the quote behind it. -/
theorem string?_escaped (t rest : Text) :
    string? (t.flatMap escapeChar ++ '"' :: rest) = some (t, rest) := by
  have hunits : stringUnits? (t.flatMap escapeChar ++ '"' :: rest) =
      some (t.flatMap unitsOf, rest) := by
    induction t with
    | nil => rfl
    | cons c t ih => rw [List.flatMap_cons, List.append_assoc, stringUnits?_escapeChar, ih]; rfl
  have htext : ∀ s : Text, ofUnits (s.flatMap unitsOf) = s := fun s => by
    induction s with
    | nil => rfl
    | cons c s ih => rw [List.flatMap_cons, ofUnits_unitsOf, ih]
  unfold string?
  rw [hunits]
  exact congrArg (fun s => some (s, rest)) (htext t)

end Worklog.Json
