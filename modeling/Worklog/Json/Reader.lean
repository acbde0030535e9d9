import Worklog.Json.Basic
import Worklog.Text.Digit

/-!
# Reading JSON

`Json.read` reads a text that consists of one JSON value and blanks around it. Besides the numbers
of JSON it knows infinity and what is no number. A repeated key of an object keeps its first place
and takes its last value.

Lists and objects may be nested to a fixed depth, and whole numbers may have a fixed number of
digits; what goes beyond is a fault of its own. The reader recurses on a bound for its steps, which
the length of the text supplies.
-/

namespace Worklog.Json

/-- The four blanks of JSON. -/
def isJsonBlank (c : Char) : Bool := c == ' ' || c == '\n' || c == '\r' || c == '\t'

/-- A text without the blanks at its start. -/
def skipBlanks (t : Text) : Text := t.dropWhile isJsonBlank

/-! ## 1. Strings -/

/-- The value of a hexadecimal digit. -/
def hexValue? (c : Char) : Option Nat :=
  let n := c.toNat
  if 48 ≤ n && n ≤ 57 then some (n - 48)
  else if 65 ≤ n && n ≤ 70 then some (n - 55)
  else if 97 ≤ n && n ≤ 102 then some (n - 87)
  else none

/-- The unit named by four hexadecimal digits. -/
def hexUnit? (a b c d : Char) : Option Nat := do
  let a ← hexValue? a
  let b ← hexValue? b
  let c ← hexValue? c
  let d ← hexValue? d
  return ((a * 16 + b) * 16 + c) * 16 + d

/-- The character that a one-letter escape stands for. -/
def simpleEscape? (c : Char) : Option Nat :=
  if c == '"' || c == '\\' || c == '/' then some c.toNat
  else if c == 'b' then some 8
  else if c == 'f' then some 12
  else if c == 'n' then some 10
  else if c == 'r' then some 13
  else if c == 't' then some 9
  else none

/-- The rest of a string as code units, and what follows its closing quote. -/
def stringUnits? : Text → Option (List Nat × Text)
  | [] => none
  | '"' :: rest => some ([], rest)
  | '\\' :: 'u' :: a :: b :: c :: d :: rest => do
    let n ← hexUnit? a b c d
    let (units, after) ← stringUnits? rest
    return (n :: units, after)
  | '\\' :: e :: rest => do
    let n ← simpleEscape? e
    let (units, after) ← stringUnits? rest
    return (n :: units, after)
  | c :: rest =>
    if c.toNat < 0x20 then none else do
      let (units, after) ← stringUnits? rest
      return (c.toNat :: units, after)

/-- The characters of code units: a high and a low surrogate in a row are one character, and one
    that stands alone is the replacement character. -/
def ofUnits : List Nat → Text
  | [] => []
  | [n] => [if 0xD800 ≤ n && n < 0xE000 then Char.ofNat 0xFFFD else Char.ofNat n]
  | n :: m :: rest =>
    if 0xD800 ≤ n && n < 0xDC00 && 0xDC00 ≤ m && m < 0xE000 then
      Char.ofNat (0x10000 + (n - 0xD800) * 0x400 + (m - 0xDC00)) :: ofUnits rest
    else
      (if 0xD800 ≤ n && n < 0xE000 then Char.ofNat 0xFFFD else Char.ofNat n) :: ofUnits (m :: rest)

/-- The rest of a string and what follows it. -/
def string? (t : Text) : Option (Text × Text) :=
  (stringUnits? t).map fun (units, rest) => (ofUnits units, rest)

/-! ## 2. Numbers -/

/-- A run of ASCII digits at the start of a text and what follows it. -/
def digits (t : Text) : Text × Text :=
  (t.takeWhile Text.isAsciiDigit, t.dropWhile Text.isAsciiDigit)

/-- The fraction of a number, if a point and a digit follow. -/
def fraction : Text → Text × Text
  | '.' :: rest =>
    let (ds, after) := digits rest
    if ds.isEmpty then ([], '.' :: rest) else (ds, after)
  | t => ([], t)

/-- The exponent of a number, if one follows. -/
def exponent? (t : Text) : Option (Int × Text) :=
  match t with
  | e :: rest =>
    if e == 'e' || e == 'E' then
      let (negative, rest) := match rest with
        | '-' :: r => (true, r)
        | '+' :: r => (false, r)
        | r => (false, r)
      let (ds, after) := digits rest
      if ds.isEmpty then none
      else
        let k : Int := Text.numeral ds
        some (if negative then -k else k, after)
    else none
  | [] => none

/-- The binary64 number nearest to a decimal with a sign, its digits and an exponent of ten. -/
def realOf (negative : Bool) (whole part : Text) (k : Int) : Quantity :=
  Figure.nearestDecimal negative (Text.numeral (whole ++ part)) (k - part.length)

/-- A whole number with a sign, unless it has too many digits. -/
def wholeOf (negative : Bool) (ds : Text) : Except Fault Json :=
  if Text.maxDigits < ds.length then .error (.tooManyDigits ds.length)
  else
    let n : Int := Text.numeral ds
    .ok (.int (if negative then -n else n))

/-- A number without its sign. -/
def unsigned (negative : Bool) (t : Text) : Except Fault (Json × Text) :=
  let (run, after) := digits t
  match run with
  | [] => .error .malformedJson
  | d :: more =>
    let (whole, after) := if d == '0' then (['0'], more ++ after) else (run, after)
    let (part, after) := fraction after
    match exponent? after with
    | some (k, after) => .ok (.real (realOf negative whole part k), after)
    | none =>
      if part.isEmpty then (wholeOf negative whole).map fun v => (v, after)
      else .ok (.real (realOf negative whole part 0), after)

/-! ## 3. Values -/

/-- The values that are written as words. -/
def wordValues : List (String × Json) :=
  [("null", .null), ("true", .bool true), ("false", .bool false), ("NaN", .real .undefined),
   ("Infinity", .real (.infinite false)), ("-Infinity", .real (.infinite true))]

/-- The word at the start of a text as a value, and what follows it. -/
def word? (t : Text) : Option (Json × Text) :=
  (wordValues.find? fun w => w.1.toList.isPrefixOf t).map fun w => (w.2, t.drop w.1.length)

/-- A word or a number at the start of a text. -/
def plainValue (t : Text) : Except Fault (Json × Text) :=
  match word? t with
  | some found => .ok found
  | none =>
    match t with
    | '-' :: rest => unsigned true rest
    | t => unsigned false t

/-- What a part of a document comes to if it may be malformed. -/
def orMalformed {α : Type} : Option α → Except Fault α
  | some a => .ok a
  | none => .error .malformedJson

/-- The greatest number of lists and objects around a value. -/
def maxDepth : Nat := 950

mutual

/-- A value at the start of a text, with as many lists and objects around it as `depth` says. -/
def readValue (steps depth : Nat) (t : Text) : Except Fault (Json × Text) :=
  match steps with
  | 0 => .error .malformedJson
  | steps + 1 =>
    match skipBlanks t with
    | '"' :: rest => orMalformed ((string? rest).map fun (s, after) => (.str s, after))
    | '[' :: rest =>
      if maxDepth ≤ depth then .error (.tooDeep (some .list)) else
        match skipBlanks rest with
        | ']' :: after => .ok (.arr [], after)
        | rest => (readItems steps (depth + 1) rest).map fun (vs, after) => (.arr vs, after)
    | '\x7b' :: rest =>
      if maxDepth ≤ depth then .error (.tooDeep (some .object)) else
        match skipBlanks rest with
        | '\x7d' :: after => .ok (.obj [], after)
        | rest => (readMembers steps (depth + 1) [] rest).map fun (ms, after) => (.obj ms, after)
    | rest => plainValue rest

/-- The items of a list up to its closing bracket. -/
def readItems (steps depth : Nat) (t : Text) : Except Fault (List Json × Text) :=
  match steps with
  | 0 => .error .malformedJson
  | steps + 1 => do
    let (v, rest) ← readValue steps depth t
    match skipBlanks rest with
    | ',' :: rest =>
      let (vs, after) ← readItems steps depth rest
      return (v :: vs, after)
    | ']' :: after => return ([v], after)
    | _ => throw .malformedJson

/-- The members of an object up to its closing bracket, added to those read before. -/
def readMembers (steps depth : Nat) (ms : List (String × Json)) (t : Text) :
    Except Fault (List (String × Json) × Text) :=
  match steps with
  | 0 => .error .malformedJson
  | steps + 1 =>
    match skipBlanks t with
    | '"' :: rest => do
      let (key, rest) ← orMalformed (string? rest)
      match skipBlanks rest with
      | ':' :: rest =>
        let (v, rest) ← readValue steps depth rest
        let ms := putMember (String.ofList key) v ms
        match skipBlanks rest with
        | ',' :: rest => readMembers steps depth ms rest
        | '\x7d' :: after => return (ms, after)
        | _ => throw .malformedJson
      | _ => throw .malformedJson
    | _ => .error .malformedJson

end

/-- **Reads a text that holds one value and nothing else but blanks.** -/
def read (t : Text) : Except Fault Json := do
  let (v, rest) ← readValue (2 * t.length + 2) 0 t
  if (skipBlanks rest).isEmpty then return v else throw .malformedJson

end Worklog.Json
