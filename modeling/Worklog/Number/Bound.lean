/-!
# Numbers held within bounds

`Number.atLeast` lifts a number to a lower bound, `Number.atMost` lowers it to an upper one. The
result keeps the bound (`le_atLeast`, `atMost_le`), and a number that keeps it already stays as it
is (`atLeast_of_le`, `atMost_of_le`).
-/

namespace Worklog.Number

/-- A number, or the bound if the number is below it. -/
def atLeast (bound x : Rat) : Rat := if bound ≤ x then x else bound

/-- A number, or the bound if the number is above it. -/
def atMost (bound x : Rat) : Rat := if x ≤ bound then x else bound

theorem atLeast_of_le {bound x : Rat} (h : bound ≤ x) : atLeast bound x = x := if_pos h

theorem atMost_of_le {bound x : Rat} (h : x ≤ bound) : atMost bound x = x := if_pos h

/-- What is lifted keeps the lower bound. -/
theorem le_atLeast (bound x : Rat) : bound ≤ atLeast bound x := by
  unfold atLeast
  split
  · assumption
  · exact Rat.le_refl

/-- What is lowered keeps the upper bound. -/
theorem atMost_le (bound x : Rat) : atMost bound x ≤ bound := by
  unfold atMost
  split
  · assumption
  · exact Rat.le_refl

end Worklog.Number
