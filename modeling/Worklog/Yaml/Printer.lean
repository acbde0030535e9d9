import Worklog.Json.Basic
import Worklog.Yaml.Kind

/-!
# Writing YAML

`Yaml.print` writes an object as a block table, one member per line, groups indented by two spaces.
A text is written plain if it then reads back as itself, else between single quotes, else between
double quotes with escapes. Long texts are broken at spaces behind column 80.

A text is written by a `Pen`, which knows the column it stands at and the indentation of broken
lines.
-/

namespace Worklog.Yaml

/-! ## 1. How a text can be written -/

/-- Whether a gap or the end stands at a place of a text. -/
def gapAt (t : Text) (i : Nat) : Bool :=
  match t[i]? with
  | none => true
  | some c => isGap c || c.toNat = 0

/-- The characters that start something else than a plain text. -/
def openers : List Char :=
  ['#', ',', '[', ']', '{', '}', '&', '*', '!', '|', '>', Char.ofNat 39, '"', '%', '@',
   Char.ofNat 96]

/-- Whether the character at a place of a text would be taken for a mark. -/
def isMarkAt (t : Text) (i : Nat) : Bool :=
  match t[i]? with
  | none => false
  | some c =>
    let followed := gapAt t (i + 1)
    if i = 0 then openers.contains c || ((c == '?' || c == ':' || c == '-') && followed)
    else (c == ':' && followed) || (c == '#' && gapAt t (i - 1))

/-- Whether a text holds a mark. -/
def hasMarks (t : Text) : Bool :=
  "---".toList.isPrefixOf t || "...".toList.isPrefixOf t || (List.range t.length).any (isMarkAt t)

/-- Whether a character needs an escape. -/
def needsEscape (c : Char) : Bool := c != '\n' && (c.toNat < 0x20 || 0x7E < c.toNat)

/-- Whether two neighbouring characters of a text pass two tests. -/
def hasPair (first second : Char → Bool) : Text → Bool
  | a :: b :: rest => (first a && second b) || hasPair first second (b :: rest)
  | _ => false

/-- Whether a character is a space or a line break. -/
def isSpaceOrBreak (c : Char) : Bool := c == ' ' || isBreak c

/-- Whether single quotes can hold a text: it needs no escapes, and no space touches a line
    break. -/
def fitsSingle (t : Text) : Bool :=
  !t.any needsEscape && !hasPair isBreak (· == ' ') t && !hasPair (· == ' ') isBreak t

/-- Whether a text can be written without quotes. -/
def fitsPlain (t : Text) : Bool :=
  decide (Kind.ofPlain t = .text) && fitsSingle t && !t.any isBreak && !hasMarks t &&
    !(t.head?).any isSpaceOrBreak && !(t.getLast?).any isSpaceOrBreak

/-! ## 2. The pen -/

/-- What has been written, backwards, the column behind it, and the indentation of broken lines. -/
structure Pen where
  written : Text
  column : Nat
  indent : Nat

namespace Pen

/-- Writes a text without line breaks. -/
def put (p : Pen) (t : Text) : Pen :=
  { p with written := t.reverse ++ p.written, column := p.column + t.length }

/-- Starts a new line. -/
def newline (p : Pen) : Pen := { p with written := '\n' :: p.written, column := 0 }

/-- Starts a new line with the indentation. -/
def breakLine (p : Pen) : Pen := p.newline.put (List.replicate p.indent ' ')

/-- The column behind which lines are broken. -/
def width : Nat := 80

/-- Whether a line is long enough to be broken. -/
def isLong (p : Pen) : Bool := decide (width < p.column)

end Pen

/-! ## 3. Texts -/

/-- A text as runs of spaces, of line breaks and of other characters. -/
def runs (t : Text) : List Text := t.splitBy fun a b =>
  (a == ' ') == (b == ' ') && isBreak a == isBreak b

/-- Writes a plain text: a single space may become a line break. -/
def writePlain (p : Pen) (t : Text) : Pen :=
  (runs t).foldl (fun p run => if run == [' '] && p.isLong then p.breakLine else p.put run) p

/-- A run of a text between single quotes, with its quotes doubled. -/
def doubleQuotes (run : Text) : Text :=
  run.flatMap fun c => if c.toNat = 39 then [c, c] else [c]

/-- Writes one run of a text between single quotes. Line breaks are doubled, a single space inside
    may become a line break. -/
def writeSingleRun (p : Pen) (run : Text) (isEdge : Bool) : Pen :=
  if run.any isBreak then
    let p := if run.head? == some '\n' then p.newline else p
    (run.foldl (fun p _ => p.newline) p).put (List.replicate p.indent ' ')
  else if run == [' '] && !isEdge && p.isLong then p.breakLine
  else p.put (doubleQuotes run)

/-- Writes the runs of a text between single quotes; the first and the last are edges. -/
def writeSingleRuns (p : Pen) : List Text → Bool → Pen
  | [], _ => p
  | [run], _ => writeSingleRun p run true
  | run :: rest, isFirst => writeSingleRuns (writeSingleRun p run isFirst) rest false

/-- Writes a text between single quotes. -/
def writeSingle (p : Pen) (t : Text) : Pen :=
  (writeSingleRuns (p.put [Char.ofNat 39]) (runs t) true).put [Char.ofNat 39]

/-- A number in upper-case hexadecimal digits. -/
def upperHex (width n : Nat) : Text :=
  (Text.padLeft width '0' (Nat.toDigits 16 n)).map Char.toUpper

/-- The letters of short escapes. -/
def escapeLetters : List (Nat × Char) :=
  [(0, '0'), (7, 'a'), (8, 'b'), (9, 't'), (10, 'n'), (11, 'v'), (12, 'f'), (13, 'r'), (27, 'e'),
   (34, '"'), (92, '\\'), (0x85, 'N'), (0xA0, '_'), (0x2028, 'L'), (0x2029, 'P')]

/-- The escape of a character. -/
def escapeOf (c : Char) : Text :=
  let n := c.toNat
  match escapeLetters.find? (·.1 == n) with
  | some (_, letter) => ['\\', letter]
  | none =>
    if n ≤ 0xFF then '\\' :: 'x' :: upperHex 2 n
    else if n ≤ 0xFFFF then '\\' :: 'u' :: upperHex 4 n
    else '\\' :: 'U' :: upperHex 8 n

/-- Whether a character stands for itself between double quotes. -/
def standsForItself (c : Char) : Bool :=
  0x20 ≤ c.toNat && c.toNat ≤ 0x7E && c != '"' && c != '\\'

/-- Breaks a line between double quotes; a space that follows is escaped. -/
def breakDouble (p : Pen) (rest : Text) : Pen :=
  let p := (p.put ['\\']).breakLine
  if rest.head? == some ' ' then p.put ['\\'] else p

/-- Writes a text between double quotes from a place on. `held` is what was read but not written
    yet; a long line is broken at a space or behind an escape, but not next to the quotes. -/
def writeDoubleFrom : Pen → Text → Bool → Text → Pen
  | p, held, _, [] => p.put held
  | p, held, isFirst, c :: rest =>
    let plain := standsForItself c
    let p := if plain then p else (p.put held).put (escapeOf c)
    let held := if plain then held else []
    let mayBreak := !isFirst && !rest.isEmpty && (c == ' ' || !plain || held.isEmpty)
    if mayBreak && decide (Pen.width < p.column + held.length) then
      let left := if plain then c :: rest else rest
      writeDoubleFrom (breakDouble (p.put held) left) (if plain then [c] else []) false rest
    else writeDoubleFrom p (if plain then held ++ [c] else []) false rest

/-- Writes a text between double quotes. -/
def writeDouble (p : Pen) (t : Text) : Pen :=
  (writeDoubleFrom (p.put ['"']) [] true t).put ['"']

/-- Writes a text in the plainest way that reads back as itself. -/
def writeText (p : Pen) (t : Text) : Pen :=
  if fitsPlain t then writePlain p t
  else if fitsSingle t then writeSingle p t
  else writeDouble p t

/-! ## 4. Documents -/

/-- Writes a value that is no group. -/
def writeScalar (p : Pen) : Json → Pen
  | .bool b => p.put (if b then "true".toList else "false".toList)
  | .int n => p.put (Text.ofInt n)
  | .real q => p.put (Figure.shortestOf Figure.pointedStyle q)
  | .str t => writeText p t
  | _ => p.put "null".toList

/-- Writes a member of a table that stands at some indentation. -/
def writeMember (indent : Nat) (p : Pen) (m : String × Json) : Pen :=
  let p := { p with indent := indent + 2 }.put (List.replicate indent ' ' ++ m.1.toList ++ [':'])
  match m.2 with
  | .obj ms =>
    let inner (p : Pen) (m : String × Json) : Pen :=
      let p := { p with indent := indent + 4 }
      let p := p.put (List.replicate (indent + 2) ' ' ++ m.1.toList ++ ": ".toList)
      (writeScalar p m.2).newline
    ms.foldl inner p.newline
  | v => (writeScalar (p.put [' ']) v).newline

/-- **Writes an object of values and groups of values.** -/
def print (v : Json) : Text :=
  match v with
  | .obj ms => (ms.foldl (writeMember 0) ⟨[], 0, 0⟩).written.reverse
  | _ => []

end Worklog.Yaml
