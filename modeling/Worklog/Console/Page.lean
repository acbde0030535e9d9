import Worklog.Console.Grid

/-!
# Pages

What a command shows is a page: lines of marked-up text, grids, and text that is shown as it is.
`Page.shown` gives the lines of a page as far as they can be shown, and the fault that stopped it.
-/

namespace Worklog

/-- A part of a page. -/
inductive Block where
  /-- Marked-up text, wrapped where it is too wide. -/
  | note (marked : Text)
  | grid (g : Grid)
  /-- Text that is shown as it is. -/
  | verbatim (t : Text)
  /-- Something that cannot be shown. -/
  | unshown (f : Fault)

/-- What a command shows. -/
abbrev Page := List Block

namespace Page

/-- The number of cells in a line of a page. -/
def width : Nat := 200

/-- The lines of a part of a page. -/
def blockLines : Block → Except Fault (List Text)
  | .note marked => do
    let t ← Markup.plain marked
    return (Console.wrap .folded width t).map (Console.shorten .folded width)
  | .grid g => g.lines width
  | .verbatim t => .ok (Text.paragraphs t)
  | .unshown f => .error f

/-- **The lines of a page**, up to a part that cannot be shown. -/
def shown : Page → List Text × Option Fault
  | [] => ([], none)
  | block :: rest =>
    match blockLines block with
    | .error f => ([], some f)
    | .ok lines =>
      let (more, stopped) := shown rest
      (lines ++ more, stopped)

/-- A page that can be shown part by part can be shown as a whole. -/
theorem shown_append {first second : Page} (h : (shown first).2 = none) :
    shown (first ++ second) = ((shown first).1 ++ (shown second).1, (shown second).2) := by
  induction first with
  | nil => simp [shown]
  | cons block rest ih =>
    simp only [List.cons_append, shown] at h ⊢
    cases hb : blockLines block with
    | error f => simp [hb] at h
    | ok lines =>
      simp only [hb] at h
      simp [ih h, List.append_assoc]

end Page

end Worklog
