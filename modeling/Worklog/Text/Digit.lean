import Worklog.Text.Blank

/-!
# Decimal digits of every script

A decimal digit is a character of Unicode's general category Nd. Each script has its ten digits
in a row, so the file lists the zeros (`digitZeros`) and reads the others off them:

* `Text.digitValue?`, the value of a digit, and `Text.isDigit`;
* `Text.numeral`, the number that a run of digits writes.

Numbers with more parts are read in `Number.Numeral`.
-/

namespace Worklog.Text

/-- The zero of each row of decimal digits. -/
def digitZeros : List Nat :=
  [0x30, 0x660, 0x6F0, 0x7C0, 0x966, 0x9E6, 0xA66, 0xAE6, 0xB66, 0xBE6, 0xC66, 0xCE6, 0xD66,
   0xDE6, 0xE50, 0xED0, 0xF20, 0x1040, 0x1090, 0x17E0, 0x1810, 0x1946, 0x19D0, 0x1A80, 0x1A90,
   0x1B50, 0x1BB0, 0x1C40, 0x1C50, 0xA620, 0xA8D0, 0xA900, 0xA9D0, 0xA9F0, 0xAA50, 0xABF0,
   0xFF10, 0x104A0, 0x10D30, 0x11066, 0x110F0, 0x11136, 0x111D0, 0x112F0, 0x11450, 0x114D0,
   0x11650, 0x116C0, 0x11730, 0x118E0, 0x11950, 0x11C50, 0x11D50, 0x11DA0, 0x16A60, 0x16AC0,
   0x16B50, 0x1D7CE, 0x1D7D8, 0x1D7E2, 0x1D7EC, 0x1D7F6, 0x1E140, 0x1E2F0, 0x1E950, 0x1FBF0]

/-- The value of a decimal digit; no other character has one. -/
def digitValue? (c : Char) : Option Nat :=
  (digitZeros.find? fun z => decide (z ≤ c.toNat) && decide (c.toNat < z + 10)).map
    fun z => c.toNat - z

/-- Whether a character is a decimal digit of some script. -/
def isDigit (c : Char) : Bool := (digitValue? c).isSome

/-- The value of a digit; characters that are none count as zero. -/
def digitValue (c : Char) : Nat := (digitValue? c).getD 0

/-- **The number written by a run of digits**, most significant digit first. -/
def numeral (t : Text) : Nat := t.foldl (fun n c => 10 * n + digitValue c) 0

@[simp] theorem numeral_nil : numeral [] = 0 := rfl

/-- A further digit at the end multiplies by ten and adds. -/
theorem numeral_append_digit (t : Text) (c : Char) :
    numeral (t ++ [c]) = 10 * numeral t + digitValue c := by
  simp [numeral]

/-- The value of a digit is below ten. -/
theorem digitValue?_lt {c : Char} {n : Nat} (h : digitValue? c = some n) : n < 10 := by
  simp only [digitValue?, Option.map_eq_some_iff] at h
  obtain ⟨z, hz, rfl⟩ := h
  have := List.find?_some hz
  simp only [Bool.and_eq_true, decide_eq_true_eq] at this
  omega

/-- Whether a character is one of the ten digits of ASCII. -/
def isAsciiDigit (c : Char) : Bool := decide (48 ≤ c.toNat) && decide (c.toNat ≤ 57)

/-! ## Signs and separators -/

/-- A text without its sign, and whether the sign is a minus. -/
def sign : Text → Bool × Text
  | '-' :: t => (true, t)
  | '+' :: t => (false, t)
  | t => (false, t)

/-- A text without underscores, if each of them stands between two other characters. -/
def dropUnderscores? (t : Text) : Option Text :=
  let runs := t.splitOn '_'
  if runs.any (·.isEmpty) then none else some runs.flatten

/-- The number of digits up to which a whole number is read. -/
def maxDigits : Nat := 4300

end Worklog.Text
