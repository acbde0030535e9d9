import Worklog.Text.Cells

/-!
# Graphemes

What a terminal shows as one picture is a grapheme: a character that takes cells, with everything
behind it that takes none or is joined to it. A text is only ever cut between graphemes. The file
fixes

* `Text.graphemes`, the graphemes of a text, which lose nothing (`Text.flatMap_graphemes`);
* `Text.ofWidth`, which cuts a text to a width: what it keeps is a beginning of the text, but for
  a space in place of a wide character that would stand over the edge, and it fits
  (`Text.total_fitting_le`).
-/

namespace Worklog.Text

/-- A picture: the characters that make it up, and its cells. -/
structure Grapheme where
  text : Text
  width : Nat
  deriving DecidableEq, Repr

/-- The graphemes of a text that goes on with the grapheme `g`, in which `latest` is the latest
    character that takes cells. -/
def graphemesFrom (latest : Option Char) (g : Grapheme) : Text → List Grapheme
  | [] => [g]
  | [c] =>
    if c = wideSelector then [⟨g.text ++ [c], g.width + (widens latest).toNat⟩]
    else if cellsOf c = 0 then [⟨g.text ++ [c], g.width⟩]
    else [g, ⟨[c], cellsOf c⟩]
  | c :: next :: rest =>
    if c = joiner then graphemesFrom latest ⟨g.text ++ [c, next], g.width⟩ rest
    else if c = wideSelector then
      graphemesFrom none ⟨g.text ++ [c], g.width + (widens latest).toNat⟩ (next :: rest)
    else if cellsOf c = 0 then graphemesFrom latest ⟨g.text ++ [c], g.width⟩ (next :: rest)
    else g :: graphemesFrom (some c) ⟨[c], cellsOf c⟩ (next :: rest)

/-- **The graphemes of a text.** A joiner or selector with nothing in front of it is a grapheme
    of its own. -/
def graphemes : Text → List Grapheme
  | [] => []
  | c :: rest => graphemesFrom (latestAfter none c) ⟨[c], cellsOf c⟩ rest

theorem flatMap_graphemesFrom (latest : Option Char) (g : Grapheme) (t : Text) :
    (graphemesFrom latest g t).flatMap Grapheme.text = g.text ++ t := by
  fun_induction graphemesFrom latest g t <;> simp_all

/-- The graphemes make up the text. -/
theorem flatMap_graphemes (t : Text) : (graphemes t).flatMap Grapheme.text = t := by
  cases t with
  | nil => rfl
  | cons c rest => simp [graphemes, flatMap_graphemesFrom]

/-- The cells of some graphemes. -/
def total (gs : List Grapheme) : Nat := (gs.map Grapheme.width).foldr (· + ·) 0

/-- As many graphemes as fit into a width, from the first on. -/
def fitting : Nat → List Grapheme → List Grapheme
  | _, [] => []
  | width, g :: rest =>
    if g.width ≤ width then g :: fitting (width - g.width) rest else []

/-- What is kept fits. -/
theorem total_fitting_le (width : Nat) (gs : List Grapheme) : total (fitting width gs) ≤ width := by
  induction gs generalizing width with
  | nil => simp [fitting, total]
  | cons g rest ih =>
    unfold fitting
    split
    · have := ih (width - g.width)
      simp only [total, List.map_cons, List.foldr_cons] at this ⊢
      omega
    · simp [total]

/-- What is kept is a beginning. -/
theorem fitting_isPrefix (width : Nat) (gs : List Grapheme) : fitting width gs <+: gs := by
  induction gs generalizing width with
  | nil => simp [fitting]
  | cons g rest ih =>
    unfold fitting
    split
    · exact (List.prefix_cons_inj g).2 (ih _)
    · exact List.nil_prefix

/-- **A text cut to a width** that it is too wide for: the graphemes that fit, and a space where a
    wide one stands over the edge. -/
def ofWidth (width : Nat) (t : Text) : Text :=
  let kept := fitting width (graphemes t)
  if width = 0 then [] else kept.flatMap Grapheme.text ++ spaces (width - total kept)

end Worklog.Text
