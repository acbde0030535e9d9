import Worklog.Text.Digit
import Worklog.Yaml.Scalar

/-!
# Kinds of YAML nodes

A tag says what a node stands for. A node without a tag stands for a table, a list or a text,
except for plain scalars: one that is written like a word for nothing, a truth value, a number or a
time stands for that. The file fixes

* `Kind`, what nodes stand for;
* `Kind.ofTag`, the kind that a tag says;
* `Kind.ofPlain`, the kind of a plain scalar without a tag.
-/

namespace Worklog.Yaml

/-- What a node stands for. -/
inductive Kind where
  | null
  | bool
  | whole
  | real
  | time
  | binary
  | text
  | list
  | table
  | set
  /-- A list of pairs. -/
  | pairs
  /-- A list of pairs in which order matters. -/
  | ordered
  /-- The key under which other tables are merged into one. -/
  | merge
  /-- The key of the value that a table stands for. -/
  | value
  /-- Something unknown. -/
  | other
  deriving DecidableEq, Repr, Inhabited

namespace Kind

/-! ## 1. Tags -/

/-- What the tags of known kinds start with. -/
def tagStart : Text := "tag:yaml.org,2002:".toList

/-- The names of the known kinds. -/
def names : List (String × Kind) :=
  [("null", .null), ("bool", .bool), ("int", .whole), ("float", .real), ("timestamp", .time),
   ("binary", .binary), ("str", .text), ("seq", .list), ("map", .table), ("set", .set),
   ("pairs", .pairs), ("omap", .ordered), ("merge", .merge), ("value", .value)]

/-- **The kind that a tag says.** -/
def ofTag (tag : Text) : Kind :=
  ((names.find? fun n => tagStart ++ n.1.toList == tag).map (·.2)).getD .other

/-- Whether nodes of a kind hold other nodes. -/
def isCollection : Kind → Bool
  | .list => true
  | .table => true
  | .set => true
  | .pairs => true
  | .ordered => true
  | _ => false

/-! ## 2. Words -/

/-- Words for nothing. -/
def nullWords : List String := ["", "~", "null", "Null", "NULL"]

/-- Words for truth values. -/
def boolWords : List String :=
  ["yes", "Yes", "YES", "true", "True", "TRUE", "on", "On", "ON",
   "no", "No", "NO", "false", "False", "FALSE", "off", "Off", "OFF"]

/-- Words for infinity behind an optional sign. -/
def infinityWords : List String := [".inf", ".Inf", ".INF"]

/-- Words for what is no number. -/
def undefinedWords : List String := [".nan", ".NaN", ".NAN"]

/-! ## 3. Numbers -/

/-- Whether a text consists of characters that pass a test, or underscores, and is not empty. -/
def isRun (test : Char → Bool) (t : Text) : Bool := !t.isEmpty && t.all fun c => test c || c == '_'

/-- Whether a text starts with a digit and goes on with digits and underscores. -/
def isDecimal (t : Text) : Bool := (t.head?).any Text.isAsciiDigit && isRun Text.isAsciiDigit t

/-- Whether a text is a part of a number to the base sixty. -/
def isSixtieth (t : Text) : Bool :=
  match t with
  | [a] => Text.isAsciiDigit a
  | [a, b] => decide ('0'.toNat ≤ a.toNat) && decide (a.toNat ≤ '5'.toNat) && Text.isAsciiDigit b
  | _ => false

/-- Whether a text is a number to the base sixty: at least two parts between colons. -/
def isSixty (t : Text) : Bool :=
  match t.splitOn ':' with
  | first :: more => isDecimal first && !more.isEmpty && more.all isSixtieth
  | [] => false

/-- Whether a character is an octal digit. -/
def isOctal (c : Char) : Bool := decide ('0'.toNat ≤ c.toNat) && decide (c.toNat ≤ '7'.toNat)

/-- Whether a text without sign is written like a whole number. -/
def isNatural (t : Text) : Bool :=
  match t with
  | '0' :: 'b' :: ds => isRun (fun c => c == '0' || c == '1') ds
  | '0' :: 'x' :: ds => isRun (fun c => (hexDigit? c).isSome) ds
  | '0' :: ds => ds.isEmpty || isRun isOctal ds
  | t => isDecimal t || isSixty t

/-- Whether a text is written like a whole number. -/
def isWhole (t : Text) : Bool := isNatural (Text.sign t).2

/-- Whether a text is an exponent: a mark, a sign that has to be there, and digits; or nothing. -/
def isExponent : Text → Bool
  | [] => true
  | e :: s :: ds =>
    (e == 'e' || e == 'E') && (s == '-' || s == '+') && !ds.isEmpty && ds.all Text.isAsciiDigit
  | _ => false

/-- Whether a text without sign is written like a number with a point; `signed` says whether it
    has a sign, which asks for a digit before the point. -/
def isPointed (signed : Bool) (t : Text) : Bool :=
  match t.dropWhile (· != '.') with
  | _ :: rest =>
    let whole := t.takeWhile (· != '.')
    let part := rest.takeWhile fun c => Text.isAsciiDigit c || c == '_'
    let mark := rest.dropWhile fun c => Text.isAsciiDigit c || c == '_'
    (isExponent mark && (isDecimal whole || (whole.isEmpty && isDecimal part && !signed))) ||
      (mark.isEmpty && isSixty whole)
  | [] => false

/-- Whether a text is written like a number with a point, or is a word for what has no digits. -/
def isReal (t : Text) : Bool :=
  let u := (Text.sign t).2
  isPointed (decide (u.length < t.length)) u || infinityWords.contains (String.ofList u) ||
    undefinedWords.contains (String.ofList t)

/-! ## 4. Times -/

/-- Whether a text has some number of digits between two bounds. -/
def isDigits (least most : Nat) (t : Text) : Bool :=
  decide (least ≤ t.length) && decide (t.length ≤ most) && t.all Text.isAsciiDigit

/-- Whether a character is a space or a tab. -/
def isSpacing (c : Char) : Bool := c == ' ' || c == '\t'

/-- The parts of a time as they are written. -/
structure TimeParts where
  year : Text
  month : Text
  day : Text
  /-- The hour, the minute, the second and the digits of a fraction, unless it is a date. -/
  clock : Option (Text × Text × Text × Text)
  /-- The sign, the hours and the minutes of an offset. -/
  offset : Option (Bool × Text × Text)

/-- The offset behind a time: none, the letter for UTC, or a sign, hours and perhaps minutes. -/
def offset? (t : Text) : Option (Option (Bool × Text × Text)) :=
  match t.dropWhile isSpacing with
  | [] => if t.isEmpty then some none else none
  | ['Z'] => some (some (false, [], []))
  | c :: rest =>
    if c == '-' || c == '+' then
      match rest.splitOn ':' with
      | [hours] => if isDigits 1 2 hours then some (some (c == '-', hours, [])) else none
      | [hours, minutes] =>
        if isDigits 1 2 hours && isDigits 2 2 minutes then some (some (c == '-', hours, minutes))
        else none
      | _ => none
    else none

/-- The time of day at the start of a text, and the offset behind it. -/
def clock? (date : TimeParts) (t : Text) : Option TimeParts := do
  let hour := t.takeWhile Text.isAsciiDigit
  match t.drop hour.length with
  | ':' :: a :: b :: ':' :: c :: d :: rest =>
    let (fraction, rest) := match rest with
      | '.' :: rest => (rest.takeWhile Text.isAsciiDigit, rest.dropWhile Text.isAsciiDigit)
      | rest => ([], rest)
    let offset ← offset? rest
    if isDigits 1 2 hour && isDigits 2 2 [a, b] && isDigits 2 2 [c, d] then
      some { date with clock := some (hour, [a, b], [c, d], fraction), offset }
    else none
  | _ => none

/-- **The parts of a time**, if a text is written like one. -/
def time? (t : Text) : Option TimeParts :=
  match t with
  | y1 :: y2 :: y3 :: y4 :: '-' :: rest =>
    let year := [y1, y2, y3, y4]
    let month := rest.takeWhile Text.isAsciiDigit
    match rest.drop month.length with
    | '-' :: rest =>
      let day := rest.takeWhile Text.isAsciiDigit
      let date : TimeParts := ⟨year, month, day, none, none⟩
      if isDigits 4 4 year && isDigits 1 2 month && isDigits 1 2 day then
        match rest.drop day.length with
        | [] => some date
        | c :: rest =>
          if c == 'T' || c == 't' then clock? date rest
          else if isSpacing c then clock? date (rest.dropWhile isSpacing)
          else none
      else none
    | _ => none
  | _ => none

/-- Whether a plain scalar is a time: a date alone has two digits for the month and the day. -/
def isTime (t : Text) : Bool :=
  (time? t).any fun parts =>
    parts.clock.isSome || (parts.month.length == 2 && parts.day.length == 2)

/-! ## 5. Plain scalars -/

/-- **The kind of a plain scalar.** -/
def ofPlain (t : Text) : Kind :=
  let word := String.ofList t
  if boolWords.contains word then .bool
  else if isReal t then .real
  else if isWhole t then .whole
  else if word == "<<" then .merge
  else if nullWords.contains word then .null
  else if isTime t then .time
  else if word == "=" then .value
  else .text

end Kind

end Worklog.Yaml
