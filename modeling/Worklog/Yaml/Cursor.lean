import Worklog.Text.Basic

/-!
# A place in a YAML text

A cursor is a place in a text: what is left of the text, and the line and column of the place. The
column counts characters since the last line break. `Cursor.skip` moves on by some characters.
-/

namespace Worklog.Yaml

/-- Whether a character breaks a line. -/
def isBreak (c : Char) : Bool :=
  c == '\n' || c.toNat == 0x85 || c.toNat == 0x2028 || c.toNat == 0x2029

/-- Whether a character is a space, a tab or a line break. -/
def isGap (c : Char) : Bool := c == ' ' || c == '\t' || isBreak c

/-- A place in a text. -/
structure Cursor where
  rest : Text
  line : Nat
  column : Nat

namespace Cursor

/-- The start of a text. -/
def start (t : Text) : Cursor := ⟨t, 0, 0⟩

/-- The next character. -/
def peek (c : Cursor) : Option Char := c.rest.head?

/-- Whether the next character passes a test. -/
def sees (c : Cursor) (test : Char → Bool) : Bool := c.peek.any test

/-- Whether the text ends or a gap follows after some characters. -/
def endsAt (c : Cursor) (n : Nat) : Bool := (c.rest[n]?).all isGap

/-- The place behind one character. -/
def next (c : Cursor) : Cursor :=
  match c.rest with
  | [] => c
  | d :: rest =>
    if isBreak d then ⟨rest, c.line + 1, 0⟩
    else if d.toNat = 0xFEFF then ⟨rest, c.line, c.column⟩
    else ⟨rest, c.line, c.column + 1⟩

/-- The place behind some characters. -/
def skip : Nat → Cursor → Cursor
  | 0, c => c
  | n + 1, c => skip n c.next

/-- The place behind the characters that pass a test. -/
def skipWhile (test : Char → Bool) (c : Cursor) : Cursor :=
  skip (c.rest.takeWhile test).length c

/-- The line break at a place as it is kept, and the place behind it. -/
def lineBreak (c : Cursor) : Text × Cursor :=
  match c.rest with
  | d :: _ => (if d.toNat = 0x85 then ['\n'] else [d], c.next)
  | [] => ([], c)

/-- Whether a mark of three characters that separates documents stands at a place. -/
def atSeparator (c : Cursor) : Bool :=
  (c.rest.take 3 == "---".toList || c.rest.take 3 == "...".toList) && c.endsAt 3

end Cursor

end Worklog.Yaml
