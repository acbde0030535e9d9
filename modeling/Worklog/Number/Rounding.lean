/-!
# Rounding quotients to integers

Every rounding of the library goes back to one rule, stated here on naturals: the quotient goes
to the nearest integer, and a half goes to the even neighbour (`nearestNat`). The laws
`two_mul_nearestNat_le` and `le_two_mul_nearestNat` say that the result is within half a unit.
`roundTo` rounds a rational to a number of decimal places.
-/

namespace Worklog.Number

/-- **The integer nearest to `n / d`, a half going to the even neighbour.** -/
def nearestNat (n d : Nat) : Nat :=
  if 2 * (n % d) < d then n / d
  else if d < 2 * (n % d) then n / d + 1
  else if n / d % 2 = 0 then n / d else n / d + 1

/-- The result exceeds the quotient by at most a half. -/
theorem two_mul_nearestNat_le (n d : Nat) : 2 * (nearestNat n d * d) ≤ 2 * n + d := by
  have h : d * (n / d) + n % d = n := Nat.div_add_mod n d
  unfold nearestNat
  generalize n / d = q at *
  generalize n % d = r at *
  split
  · rw [Nat.mul_comm q d]; omega
  · split
    · rw [Nat.add_mul, Nat.mul_comm q d]; omega
    · split
      · rw [Nat.mul_comm q d]; omega
      · rw [Nat.add_mul, Nat.mul_comm q d]; omega

/-- The result falls short of the quotient by at most a half. -/
theorem le_two_mul_nearestNat (n : Nat) {d : Nat} (hd : 0 < d) :
    2 * n ≤ 2 * (nearestNat n d * d) + d := by
  have h : d * (n / d) + n % d = n := Nat.div_add_mod n d
  unfold nearestNat
  have hr : n % d < d := Nat.mod_lt _ hd
  generalize n / d = q at *
  generalize n % d = r at *
  split
  · rw [Nat.mul_comm q d]; omega
  · split
    · rw [Nat.add_mul, Nat.mul_comm q d]; omega
    · split
      · rw [Nat.mul_comm q d]; omega
      · rw [Nat.add_mul, Nat.mul_comm q d]; omega

/-- The magnitude of a rational in units of `10 ^ (-places)`, rounded. -/
def scaled (places : Nat) (x : Rat) : Nat := nearestNat (x.num.natAbs * Nat.pow 10 places) x.den

/-- A rational rounded to a number of decimal places, a half going to the even neighbour. -/
def roundTo (places : Nat) (x : Rat) : Rat :=
  let m : Int := scaled places x
  (if x.num < 0 then -m else m) / (Nat.pow 10 places : Nat)

end Worklog.Number
