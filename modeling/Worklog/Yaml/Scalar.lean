import Worklog.Fault
import Worklog.Text.Digit
import Worklog.Yaml.Cursor

/-!
# Scalars of a YAML text

Plain scalars end where a colon or a comment could start; quoted scalars end at their quote; block
scalars end with their indentation. All of them may go over several lines, which are folded: a
single line break becomes a space, further ones are kept.

The functions take the cursor at the first character of a scalar (behind the quote or the mark, for
the other two forms) and give its text and the place behind it. Loops recurse on a bound, which the
length of the rest supplies.
-/

namespace Worklog.Yaml

/-- A scalar, the place behind it, and whether a line break came last. -/
structure Scanned where
  text : Text
  cursor : Cursor
  broke : Bool

/-! ## 1. Line folding -/

/-- What a gap with line breaks becomes. -/
def folded (first : Text) (more : Text) : Text :=
  if first != ['\n'] then first ++ more else if more.isEmpty then [' '] else more

/-- The line breaks from a place on, with spaces between them, and whether a separator of
    documents stopped them. -/
def plainBreaks : Nat → Text → Cursor → Option (Text × Cursor)
  | 0, acc, c => some (acc, c)
  | bound + 1, acc, c =>
    if c.sees (· == ' ') then plainBreaks bound acc c.next
    else if c.sees isBreak then
      let (b, c) := c.lineBreak
      if c.atSeparator then none else plainBreaks bound (acc ++ b) c
    else some (acc, c)

/-! ## 2. Plain scalars -/

/-- The marks of flow collections. -/
def flowMarks : List Char := [',', '?', '[', ']', '{', '}']

/-- Whether a colon before a text ends a plain scalar. -/
def colonEnds (inFlow : Bool) : Text → Bool
  | [] => true
  | c :: _ => isGap c || (inFlow && [',', '[', ']', '{', '}'].contains c)

/-- The part of a plain scalar up to the next gap. -/
def plainRun (inFlow : Bool) : Text → Text
  | [] => []
  | c :: rest =>
    if isGap c || (c == ':' && colonEnds inFlow rest) || (inFlow && flowMarks.contains c) then []
    else c :: plainRun inFlow rest

/-- The gap behind a part of a plain scalar as it is kept, the place behind it, and whether the
    gap has a line break. -/
def plainGap (c : Cursor) : Scanned :=
  let spaces := c.rest.takeWhile (· == ' ')
  let c := c.skip spaces.length
  if c.sees isBreak then
    let (b, c) := c.lineBreak
    if c.atSeparator then ⟨[], c, true⟩
    else match plainBreaks c.rest.length [] c with
      | some (more, c) => ⟨folded b more, c, true⟩
      | none => ⟨[], c, true⟩
  else ⟨spaces, c, false⟩

/-- A plain scalar behind some of its parts; `gap` stands before the next one, and the parts of a
    scalar outside of flow collections stand at `indent` at least. -/
def plainFrom (inFlow : Bool) (indent : Int) : Nat → Scanned → Text → Scanned
  | 0, s, _ => s
  | bound + 1, s, gap =>
    if s.cursor.sees (· == '#') then s else
      let run := plainRun inFlow s.cursor.rest
      if run.isEmpty then s else
        let g := plainGap (s.cursor.skip run.length)
        let s : Scanned := ⟨s.text ++ gap ++ run, g.cursor, g.broke⟩
        if g.text.isEmpty || g.cursor.sees (· == '#') ||
            (!inFlow && decide ((g.cursor.column : Int) < indent)) then s
        else plainFrom inFlow indent bound s g.text

/-- **A plain scalar.** -/
def plainScalar (inFlow : Bool) (indent : Int) (c : Cursor) : Scanned :=
  plainFrom inFlow indent c.rest.length ⟨[], c, false⟩ []

/-! ## 3. Quoted scalars -/

/-- The line breaks of a quoted scalar from a place on, with blanks between them. -/
def quotedBreaks : Nat → Text → Cursor → Except Fault (Text × Cursor)
  | 0, acc, c => .ok (acc, c)
  | bound + 1, acc, c =>
    if c.atSeparator then .error .unreadableToken
    else
      let c := c.skipWhile fun d => d == ' ' || d == '\t'
      if c.sees isBreak then
        let (b, c) := c.lineBreak
        quotedBreaks bound (acc ++ b) c
      else .ok (acc, c)

/-- The gap inside a quoted scalar as it is kept, and the place behind it. -/
def quotedGap (c : Cursor) : Except Fault (Text × Cursor) :=
  let blanks := c.rest.takeWhile fun d => d == ' ' || d == '\t'
  let c := c.skip blanks.length
  match c.peek with
  | none => .error .unreadableToken
  | some d =>
    if isBreak d then do
      let (b, c) := c.lineBreak
      let (more, c) ← quotedBreaks c.rest.length [] c
      return (folded b more, c)
    else .ok (blanks, c)

/-- The characters that escapes of one letter stand for. -/
def escapes : List (Char × Nat) :=
  [('0', 0), ('a', 7), ('b', 8), ('t', 9), ('\t', 9), ('n', 10), ('v', 11), ('f', 12), ('r', 13),
   ('e', 27), (' ', 32), ('"', 34), ('\\', 92), ('/', 47), ('N', 0x85), ('_', 0xA0), ('L', 0x2028),
   ('P', 0x2029)]

/-- The number of hexadecimal digits behind the letter of an escape. -/
def escapeLength? (c : Char) : Option Nat :=
  if c == 'x' then some 2 else if c == 'u' then some 4 else if c == 'U' then some 8 else none

/-- The value of a hexadecimal digit. -/
def hexDigit? (c : Char) : Option Nat :=
  let n := c.toNat
  if 48 ≤ n && n ≤ 57 then some (n - 48)
  else if 65 ≤ n && n ≤ 70 then some (n - 55)
  else if 97 ≤ n && n ≤ 102 then some (n - 87)
  else none

/-- The number written by exactly `n` hexadecimal digits. -/
def hexNumber? (n : Nat) (t : Text) : Option Nat :=
  let ds := (t.take n).filterMap hexDigit?
  if ds.length = n then some (ds.foldl (fun a d => 16 * a + d) 0) else none

/-- An escape behind its backslash: the text it stands for, and the place behind it. -/
def escape (c : Cursor) : Except Fault (Text × Cursor) :=
  match c.peek with
  | none => .error .unreadableToken
  | some d =>
    match escapes.find? (·.1 == d) with
    | some (_, n) => .ok ([Char.ofNat n], c.next)
    | none =>
      match escapeLength? d with
      | some n =>
        match hexNumber? n c.next.rest with
        | some code =>
          if code < 0x110000 then .ok ([Char.ofNat code], c.next.skip n)
          else .error .noSuchCharacter
        | none => .error .unreadableToken
      | none =>
        if isBreak d then
          let (_, c) := c.lineBreak
          quotedBreaks c.rest.length [] c
        else .error .unreadableToken

/-- A quoted scalar behind some of its text, up to and with its closing quote. -/
def quotedFrom (isDouble : Bool) : Nat → Text → Cursor → Except Fault (Text × Cursor)
  | 0, _, _ => .error .unreadableToken
  | bound + 1, acc, c =>
    match c.rest with
    | [] => .error .unreadableToken
    | d :: after =>
      if isGap d then do
        let (gap, c) ← quotedGap c
        quotedFrom isDouble bound (acc ++ gap) c
      else if d.toNat = 39 then
        if isDouble then quotedFrom isDouble bound (acc ++ [d]) c.next
        else if after.head? == some d then quotedFrom isDouble bound (acc ++ [d]) (c.skip 2)
        else .ok (acc, c.next)
      else if d == '"' then
        if isDouble then .ok (acc, c.next) else quotedFrom isDouble bound (acc ++ [d]) c.next
      else if d == '\\' && isDouble then do
        let (t, c) ← escape c.next
        quotedFrom isDouble bound (acc ++ t) c
      else quotedFrom isDouble bound (acc ++ [d]) c.next

/-- **A quoted scalar** behind its opening quote. -/
def quotedScalar (isDouble : Bool) (c : Cursor) : Except Fault (Text × Cursor) :=
  quotedFrom isDouble (c.rest.length + 1) [] c

/-! ## 4. Block scalars -/

/-- What happens to the line breaks at the end of a block scalar. -/
inductive Chomping where
  | clip
  | strip
  | keep
  deriving DecidableEq

/-- The chomping mark at a place. -/
def chomping? (c : Cursor) : Option Chomping :=
  if c.sees (· == '+') then some .keep else if c.sees (· == '-') then some .strip else none

/-- The indentation digit at a place; a zero is none. -/
def increment? (c : Cursor) : Except Fault (Option Nat) :=
  match c.peek with
  | some d =>
    if Text.isAsciiDigit d then
      if d == '0' then .error .unreadableToken else .ok (some (d.toNat - 48))
    else .ok none
  | none => .ok none

/-- The marks of a block scalar, in either order, and the place behind them. -/
def blockMarks (c : Cursor) : Except Fault (Chomping × Option Nat × Cursor) := do
  match chomping? c with
  | some chomp =>
    let c := c.next
    match ← increment? c with
    | some n => return (chomp, some n, c.next)
    | none => return (chomp, none, c)
  | none =>
    match ← increment? c with
    | some n =>
      let c := c.next
      match chomping? c with
      | some chomp => return (chomp, some n, c.next)
      | none => return (.clip, some n, c)
    | none => return (.clip, none, c)

/-- The rest of the line of the marks, which may only hold a comment. -/
def blockHeader (c : Cursor) : Except Fault Cursor :=
  if c.endsAt 0 then
    let c := c.skipWhile (· == ' ')
    let c := if c.sees (· == '#') then c.skipWhile (!isBreak ·) else c
    match c.peek with
    | none => .ok c
    | some d => if isBreak d then .ok c.lineBreak.2 else .error .unreadableToken
  else .error .unreadableToken

/-- The line breaks before the first line of a block scalar, and the deepest column on the way. -/
def blockIndent : Nat → Text → Nat → Cursor → Text × Nat × Cursor
  | 0, acc, deepest, c => (acc, deepest, c)
  | bound + 1, acc, deepest, c =>
    if c.sees (· == ' ') then
      let c := c.next
      blockIndent bound acc (max deepest c.column) c
    else if c.sees isBreak then
      let (b, c) := c.lineBreak
      blockIndent bound (acc ++ b) deepest c
    else (acc, deepest, c)

/-- A cursor behind the spaces of an indentation. -/
def skipIndent (indent : Nat) (c : Cursor) : Cursor :=
  c.skip (min (indent - c.column) (c.rest.takeWhile (· == ' ')).length)

/-- The line breaks between lines of a block scalar. -/
def blockBreaks (indent : Nat) : Nat → Text → Cursor → Text × Cursor
  | 0, acc, c => (acc, skipIndent indent c)
  | bound + 1, acc, c =>
    let c := skipIndent indent c
    if c.sees isBreak then
      let (b, c) := c.lineBreak
      blockBreaks indent bound (acc ++ b) c
    else (acc, c)

/-- Whether the next character of a line is neither a blank nor the end. -/
def startsSolid (c : Cursor) : Bool := c.sees fun d => d != ' ' && d != '\t'

/-- The lines of a block scalar: `acc` is the text so far, `breaks` the line breaks before the next
    line. Gives the text, the last line break and the breaks behind it. -/
def blockLines (isFolded : Bool) (indent : Nat) :
    Nat → Text → Text → Cursor → Text × Text × Text × Cursor
  | 0, acc, breaks, c => (acc, [], breaks, c)
  | bound + 1, acc, breaks, c =>
    if c.column = indent && c.peek.isSome then
      let solid := startsSolid c
      let line := c.rest.takeWhile (!isBreak ·)
      let (b, c) := (c.skip line.length).lineBreak
      let acc := acc ++ breaks ++ line
      let (breaks, c) := blockBreaks indent c.rest.length [] c
      if c.column = indent && c.peek.isSome then
        let joint :=
          if isFolded && b == ['\n'] && solid && startsSolid c then
            if breaks.isEmpty then [' '] else []
          else b
        blockLines isFolded indent bound (acc ++ joint) breaks c
      else (acc, b, breaks, c)
    else (acc, [], breaks, c)

/-- **A block scalar** behind its mark, inside a collection at `outer`. -/
def blockScalar (isFolded : Bool) (outer : Int) (c : Cursor) : Except Fault (Text × Cursor) := do
  let (chomp, increment, c) ← blockMarks c
  let c ← blockHeader c
  let least := (max 1 (outer + 1)).toNat
  let (breaks, indent, c) := match increment with
    | some n =>
      let indent := least + n - 1
      let (breaks, c) := blockBreaks indent c.rest.length [] c
      (breaks, indent, c)
    | none =>
      let (breaks, deepest, c) := blockIndent c.rest.length [] 0 c
      (breaks, max least deepest, c)
  let (text, last, breaks, c) := blockLines isFolded indent (c.rest.length + 1) [] breaks c
  return (match chomp with
    | .strip => text
    | .clip => text ++ last
    | .keep => text ++ last ++ breaks, c)

end Worklog.Yaml
