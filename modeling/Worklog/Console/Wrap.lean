import Worklog.Text.Grapheme
import Worklog.Text.Line

/-!
# Wrapping

A text that is wider than the room for it goes on several lines. It is cut before words, so that
each line takes as many words as fit, with the blanks behind them; a word that is too wide for any
line is folded over several of them or cut short with an ellipsis (`Overlong`).

`Console.wrap` gives the lines of a text, and `Console.shorten` cuts those that are still too wide.
Up to there nothing is lost: the chunks make up the text (`flatten_chunks`).
-/

namespace Worklog.Console

open Worklog.Text

/-- What becomes of a word that is wider than a line. -/
inductive Overlong where
  /-- It is folded over as many lines as it takes. -/
  | folded
  /-- It has a line of its own, which ends in an ellipsis. -/
  | cut
  deriving DecidableEq, Repr

/-! ## 1. Chunks -/

/-- The distance between two tab stops. -/
def tabStop : Nat := 8

/-- Some texts between tabs, with spaces in place of the tabs, from a column on. A tab takes one
    space at least. -/
def expandFrom (column : Nat) : List Text → Text
  | [] => []
  | [last] => last
  | part :: rest =>
    let reached := column + cells (part ++ [' '])
    let gap := (tabStop - reached % tabStop) % tabStop
    part ++ ' ' :: spaces gap ++ expandFrom (reached + gap) rest

/-- A text with spaces in place of tabs. -/
def expandTabs (t : Text) : Text := expandFrom 0 (t.splitOn '\t')

/-- Whether a text starts with a character that is not blank. -/
def startsWord : Text → Bool
  | [] => false
  | c :: _ => !isBlank c

/-- A text cut in front of each word that follows a blank. -/
def cutAtWords : Text → List Text
  | [] => []
  | c :: rest =>
    match cutAtWords rest with
    | [] => [[c]]
    | chunk :: more =>
      if isBlank c && startsWord chunk then [c] :: chunk :: more else (c :: chunk) :: more

/-- **The words of a text, each with the blanks behind it**; blanks at the start of the text belong
    to the first word. -/
def chunks (t : Text) : List Text :=
  match cutAtWords t with
  | first :: second :: more =>
    if isBlankText first then (first ++ second) :: more else first :: second :: more
  | short => short

/-- The pieces lose nothing. -/
theorem flatten_cutAtWords (t : Text) : (cutAtWords t).flatten = t := by
  induction t with
  | nil => rfl
  | cons c rest ih =>
    unfold cutAtWords
    split
    · rename_i h
      rw [h] at ih
      simp at ih
      simp [← ih]
    · rename_i chunk more h
      rw [h] at ih
      split <;> simp_all

/-- The chunks make up the text. -/
theorem flatten_chunks (t : Text) : (chunks t).flatten = t := by
  have h := flatten_cutAtWords t
  unfold chunks
  split
  · rename_i first second more hc
    rw [hc] at h
    split <;> simpa using h
  · exact h

/-! ## 2. Filling lines -/

/-- Lines that are being filled. -/
structure Filling where
  /-- The lines that are full, latest first. -/
  full : List Text
  line : Text
  /-- How many cells of the line are taken. -/
  used : Nat

namespace Filling

/-- No lines yet. -/
def start : Filling := ⟨[], [], 0⟩

/-- Goes on with a chunk on the same line. -/
def extend (f : Filling) (chunk : Text) : Filling :=
  { f with line := f.line ++ chunk, used := f.used + cells chunk }

/-- Goes on with a chunk on a new line; a line on which nothing stands is new enough. -/
def breakBefore (f : Filling) (chunk : Text) : Filling :=
  ⟨if f.line.isEmpty then f.full else f.line :: f.full, chunk, cells chunk⟩

/-- Puts one grapheme on the line, or on a new one if there is no room. -/
def put (width : Nat) (f : Filling) (g : Grapheme) : Filling :=
  if f.used + g.width ≤ width then ⟨f.full, f.line ++ g.text, f.used + g.width⟩
  else ⟨f.line :: f.full, g.text, g.width⟩

/-- Folds a chunk over as many new lines as it takes. -/
def fold (width : Nat) (f : Filling) (chunk : Text) : Filling :=
  let f := (graphemes chunk).foldl (put width) (f.breakBefore [])
  { f with used := cells f.line }

/-- **Places a chunk.** The blanks at its end need no room. -/
def place (rule : Overlong) (width : Nat) (f : Filling) (chunk : Text) : Filling :=
  let needed := cells (stripEnd chunk)
  if f.used + needed ≤ width then f.extend chunk
  else if needed ≤ width then f.breakBefore chunk
  else match rule with
    | .cut => f.breakBefore chunk
    | .folded => f.fold width chunk

/-- The lines, in order. -/
def lines (f : Filling) : List Text := (f.line :: f.full).reverse

end Filling

/-- A text without the blanks at its end, as far as they go beyond some characters. -/
def trimBeyond (length : Nat) (t : Text) : Text :=
  t.take (max (min length t.length) (t.length - (t.reverse.takeWhile isBlank).length))

/-- A line that is not too wide. -/
def shorten (rule : Overlong) (width : Nat) (line : Text) : Text :=
  if cells line ≤ width then line
  else match rule with
    | .folded => ofWidth width line
    | .cut => ofWidth (width - 1) line ++ ['…']

/-- The lines of a text without line feeds. -/
def wrapParagraph (rule : Overlong) (width : Nat) (t : Text) : List Text :=
  ((chunks (expandTabs t)).foldl (Filling.place rule width) .start).lines.map (trimBeyond width)

/-- **The lines of a text**, before those that are too wide are shortened. -/
def wrap (rule : Overlong) (width : Nat) (t : Text) : List Text :=
  (paragraphs t).flatMap (wrapParagraph rule width)

end Worklog.Console
