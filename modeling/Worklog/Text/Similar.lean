import Worklog.Text.Basic

/-!
# Similar texts

Two texts are as similar as the share of their characters that belong to common runs: the longest
common run counts, and what is similar before it and behind it. Of several longest runs the first
in the first text counts, and there the first in the second.

`Text.similarity` is that share, and `Text.closest` picks the texts that are most similar to one
that was perhaps misspelt.
-/

namespace Worklog.Text

/-- The length of the common beginning of two texts. -/
def commonStart : Text → Text → Nat
  | a :: s, b :: t => if a == b then commonStart s t + 1 else 0
  | _, _ => 0

/-- A run that two texts have in common: its length, and where it starts in either. -/
structure CommonRun where
  length : Nat
  first : Nat
  second : Nat

/-- The longer one of two runs, or the former. -/
def CommonRun.longer (r s : CommonRun) : CommonRun := if r.length < s.length then s else r

/-- The longest common run. -/
def longestRun (s t : Text) : CommonRun :=
  let runAt (i j : Nat) : CommonRun := ⟨commonStart (s.drop i) (t.drop j), i, j⟩
  (List.range s.length).foldl (fun r i =>
    (List.range t.length).foldl (fun r j => r.longer (runAt i j)) r) ⟨0, 0, 0⟩

/-- The number of characters in common runs, for a first text of so many characters at most. -/
def sharedFor : Nat → Text → Text → Nat
  | 0, _, _ => 0
  | n + 1, s, t =>
    let r := longestRun s t
    if r.length = 0 then 0
    else r.length + sharedFor n (s.take r.first) (t.take r.second) +
      sharedFor n (s.drop (r.first + r.length)) (t.drop (r.second + r.length))

/-- The number of characters that two texts share in common runs. -/
def shared (s t : Text) : Nat := sharedFor s.length s t

/-- **How similar two texts are**, from zero to one. -/
def similarity (s t : Text) : Rat := mkRat (2 * shared s t) (s.length + t.length)

/-- The similarity from which on a text counts as close to another. -/
def closeEnough : Rat := mkRat 3 5

/-- How many close texts are worth naming. -/
def maxClosest : Nat := 3

/-- **The candidates closest to a text**, in order of the alphabet. -/
def closest (t : Text) (candidates : List Text) : List Text :=
  let scored := (candidates.map fun c => (similarity c t, c)).filter (closeEnough ≤ ·.1)
  let best := scored.mergeSort fun a b => decide (b.1 < a.1) || (a.1 == b.1 && le b.2 a.2)
  ((best.take maxClosest).map (·.2)).mergeSort le

end Worklog.Text
