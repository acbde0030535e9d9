import Worklog.Text.Basic

/-!
# Blank characters and the words between them

A blank is a character of Unicode's White_Space property or one of the four information
separators U+001C to U+001F: 29 characters in all. The file fixes

* `Text.isBlank`, the class itself;
* `Text.strip` and `Text.stripEnd`, a text without the blanks at its two ends, or at its end;
* `Text.isSpace` and `Text.trim`, the same without the separators, which numbers go by;
* `Text.words`, the maximal runs of characters that are not blank.
-/

namespace Worklog.Text

/-- The blank characters as ranges of code points. -/
def blankRanges : List (Nat × Nat) :=
  [(0x9, 0xD), (0x1C, 0x20), (0x85, 0x85), (0xA0, 0xA0), (0x1680, 0x1680), (0x2000, 0x200A),
   (0x2028, 0x2029), (0x202F, 0x202F), (0x205F, 0x205F), (0x3000, 0x3000)]

/-- Whether a code point lies in one of some ranges, ends included. -/
def inRanges (ranges : List (Nat × Nat)) (n : Nat) : Bool :=
  ranges.any fun r => decide (r.1 ≤ n) && decide (n ≤ r.2)

/-- Whether a character is blank. -/
def isBlank (c : Char) : Bool := inRanges blankRanges c.toNat

/-- Whether a text holds blanks only; the empty text does. -/
def isBlankText (t : Text) : Bool := t.all isBlank

/-- A text without the blanks at its end. -/
def stripEnd (t : Text) : Text := (t.reverse.dropWhile isBlank).reverse

/-- A text without the blanks at its two ends. -/
def strip (t : Text) : Text := stripEnd (t.dropWhile isBlank)

/-- Whether a character is a blank of the White_Space property. -/
def isSpace (c : Char) : Bool := isBlank c && !inRanges [(0x1C, 0x1F)] c.toNat

/-- A text without the spaces at its two ends. -/
def trim (t : Text) : Text := ((t.dropWhile isSpace).reverse.dropWhile isSpace).reverse

/-- Puts a run in front of a list of runs; an empty run is no run. -/
def pushRun (run : Text) (runs : List Text) : List Text :=
  if run.isEmpty then runs else run :: runs

/-- The run that a text continues, and the runs that follow it. -/
def wordsFrom : Text → Text × List Text
  | [] => ([], [])
  | c :: rest =>
    let (run, runs) := wordsFrom rest
    if isBlank c then ([], pushRun run runs) else (c :: run, runs)

/-- **The words of a text**: its maximal runs of characters that are not blank, in order. -/
def words (t : Text) : List Text :=
  let (run, runs) := wordsFrom t
  pushRun run runs

@[simp] theorem words_nil : words [] = [] := rfl

/-- A blank in front changes no word. -/
theorem words_cons_blank {c : Char} (h : isBlank c = true) (t : Text) :
    words (c :: t) = words t := by
  simp [words, wordsFrom, h, pushRun]

end Worklog.Text
