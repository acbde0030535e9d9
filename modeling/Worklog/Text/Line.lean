import Worklog.Text.Blank

/-!
# Lines of text

A text is cut into lines at line feeds only (`Text.paragraphs`), or at every character that ends a
line (`Text.lines`): the line, paragraph and page separators and the information separators, a
carriage return with the line feed behind it counting once.
-/

namespace Worklog.Text

/-- The pieces between line feeds; a text without any is one piece. -/
def paragraphs (t : Text) : List Text := t.splitOn '\n'

/-- The code points that end a line. -/
def lineEndRanges : List (Nat × Nat) :=
  [(0xA, 0xD), (0x1C, 0x1E), (0x85, 0x85), (0x2028, 0x2029)]

/-- Whether a character ends a line. -/
def isLineEnd (c : Char) : Bool := inRanges lineEndRanges c.toNat

/-- Puts a character in front of the first line. -/
def onFirst (c : Char) : List Text → List Text
  | [] => [[c]]
  | line :: rest => (c :: line) :: rest

/-- **The lines of a text.** A line end at the end of the text starts no further line. -/
def lines : Text → List Text
  | [] => []
  | '\r' :: '\n' :: rest => [] :: lines rest
  | c :: rest => if isLineEnd c then [] :: lines rest else onFirst c (lines rest)

/-- No line of a text holds a line end. -/
theorem all_lines {t : Text} : ∀ line ∈ lines t, ∀ c ∈ line, isLineEnd c = false := by
  fun_induction lines t with
  | case1 => simp
  | case2 rest ih => simpa using ih
  | case3 c rest _ h ih => simpa using ih
  | case4 c rest _ h ih =>
    cases hl : lines rest with
    | nil => simpa [onFirst] using h
    | cons line more =>
      rw [hl] at ih
      simp only [onFirst, List.mem_cons, forall_eq_or_imp] at ih ⊢
      exact ⟨⟨by simpa using h, ih.1⟩, ih.2⟩

end Worklog.Text
