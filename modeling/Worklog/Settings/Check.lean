import Worklog.Settings.Path
import Worklog.Yaml.Value

/-!
# Checking settings

A setting is read from the value of a document that may take other forms than the setting itself: a
number may be written as text, a switch as `yes`. `Checked` gathers the complaints about several
settings, in their order, instead of stopping at the first.

The readers `Check.whole`, `Check.number`, `Check.switch`, `Check.text` and `Check.path` say what
each kind of setting takes, and which rule a value breaks.
-/

namespace Worklog

/-- A value, or complaints about it. -/
inductive Checked (α : Type) where
  | good (a : α)
  | bad (complaints : List Complaint)

namespace Checked

variable {α β : Type}

/-- A function and its argument; the complaints about both are gathered. -/
def apply : Checked (α → β) → Checked α → Checked β
  | good f, good a => good (f a)
  | good _, bad cs => bad cs
  | bad cs, good _ => bad cs
  | bad cs, bad ds => bad (cs ++ ds)

instance : Applicative Checked where
  pure := good
  seq f a := f.apply (a ())

/-- A checked value, or the fault that its complaints are. -/
def toExcept : Checked α → Except Fault α
  | good a => .ok a
  | bad cs => .error (.invalidSettings cs)

end Checked

/-- Why a value is not taken: the rule that it breaks, and words if the rule has some. -/
structure Objection where
  rule : String
  words : Option Text

namespace Check

/-- The objection of a broken rule. -/
def broken (rule : String) : Objection := ⟨rule, none⟩

/-- The objection of a value out of range. -/
def refused (words : Text) : Objection := ⟨"value_error", some ("Value error, ".toList ++ words)⟩

/-! ## 1. Numbers in texts -/

/-- A text without its underscores if each of them stands between two other characters; any other
    text stays. -/
def dropUnderscores (t : Text) : Text := (Text.dropUnderscores? t).getD t

/-- What follows a zero at the start of a number; `latest` is the character before it. Zeros and
    underscores do not count, except for the last one in front of a point or at the end. -/
def behindZero? (latest : Char) : Text → Option Text
  | [] => some [latest]
  | c :: rest =>
    if c == '0' || c == '_' then behindZero? c rest
    else if c == '.' then some (latest :: c :: rest)
    else if Text.isAsciiDigit c then some (c :: rest)
    else none

/-- A number without the zeros at its start. It has to start with a digit or a minus sign. -/
def dropZeros? : Text → Option Text
  | [] => none
  | c :: rest =>
    if c == '0' then behindZero? c rest
    else if c == '-' || Text.isAsciiDigit c then some (c :: rest)
    else none

/-- A text without a point that only zeros follow. -/
def dropPoint (t : Text) : Text :=
  match t.dropWhile (· != '.') with
  | _ :: zeros =>
    if !zeros.isEmpty && zeros.all (· == '0') then t.takeWhile (· != '.') else t
  | [] => t

/-- The digits of a whole number without what may stand around them: spaces, a plus sign, zeros,
    and single underscores. -/
def cleaned? (t : Text) : Option Text :=
  let bare := match Text.trim t with
    | '+' :: '-' :: _ => none
    | '+' :: rest => some rest
    | rest => some rest
  ((bare.bind dropZeros?).map dropPoint).map dropUnderscores

/-- The length from which on underscores may stand anywhere behind the first digit. -/
def longLength : Nat := 19

/-- The whole number that cleaned digits write. -/
def ofDigits? (t : Text) : Option Int :=
  let (negative, ds) := match t with
    | '-' :: ds => (true, ds)
    | ds => (false, ds)
  let isFree := decide (longLength ≤ t.length) && ds.head? != some '_'
  let ds := if isFree then ds.filter (· != '_') else ds
  let n : Int := Text.numeral ds
  if ds.isEmpty || !ds.all Text.isAsciiDigit then none
  else some (if negative then -n else n)

/-- The number of bytes that a text takes in UTF-8. -/
def byteLength (t : Text) : Nat := (String.ofList t).utf8ByteSize

/-- **The whole number that a text writes.** -/
def wholeOf (t : Text) : Except Objection Int :=
  match cleaned? t with
  | none => .error (broken "int_parsing")
  | some ds =>
    if Text.maxDigits < byteLength ds then .error (broken "int_parsing_size")
    else match ofDigits? ds with
      | some n => .ok n
      | none => .error (broken "int_parsing")

/-- **The number that a text writes**, as a binary64 number. -/
def numberOf? (t : Text) : Option Quantity :=
  (Numeral.plainReal? (Text.trim t)).or ((Text.dropUnderscores? t).bind Numeral.plainReal?)

/-! ## 2. Values -/

open Yaml (Value)

/-- Bytes as the text that they encode; bytes that encode none break a rule. -/
def decoded (rule : String) : Value → Except Objection Value
  | .bytes bs =>
    match Base64.utf8? bs with
    | some t => .ok (.text t)
    | none => .error (broken rule)
  | v => .ok v

/-- The bound of whole numbers of 64 bits. -/
def wordBound : Int := 0x8000000000000000

/-- A whole number that is written as a number with a fraction. -/
def wholeOfReal (q : Quantity) : Except Objection Int :=
  if !q.isFinite then .error (broken "finite_number")
  else if q.value.den ≠ 1 then .error (broken "int_from_float")
  else if wordBound ≤ q.value.num.natAbs then .error (broken "int_parsing_size")
  else .ok q.value.num

/-- A whole number. -/
def whole (v : Value) : Except Objection Int := do
  match ← decoded "int_parsing" v with
  | .whole n => return n
  | .bool b => return if b then 1 else 0
  | .real q => wholeOfReal q
  | .text t => wholeOf t
  | _ => throw (broken "int_type")

/-- A number. -/
def number (v : Value) : Except Objection Quantity := do
  match ← decoded "float_parsing" v with
  | .whole n =>
    match Amount.quantityOf .double n with
    | .ok q => return q
    | .error _ => throw (broken "float_type")
  | .bool b => return .finite (if b then 1 else 0)
  | .real q => return q
  | .text t =>
    match numberOf? t with
    | some q => return q
    | none => throw (broken "float_parsing")
  | _ => throw (broken "float_type")

/-- The words for a switch that is on. -/
def onWords : List String := ["1", "t", "true", "y", "yes", "on"]

/-- The words for a switch that is off. -/
def offWords : List String := ["0", "f", "false", "n", "no", "off"]

/-- A switch written as a number. -/
def switchOf (n : Int) : Except Objection Bool :=
  if n = 0 then .ok false
  else if n = 1 then .ok true
  else if -wordBound ≤ n ∧ n < wordBound then .error (broken "bool_parsing")
  else .error (broken "bool_type")

/-- A switch. -/
def switch (v : Value) : Except Objection Bool := do
  match ← decoded "bool_parsing" v with
  | .bool b => return b
  | .whole n => switchOf n
  | .real q =>
    match wholeOfReal q with
    | .ok n => switchOf n
    | .error _ => throw (broken "bool_type")
  | .text t =>
    let word := String.ofList (t.map Char.toLower)
    if onWords.contains word then return true
    else if offWords.contains word then return false
    else throw (broken "bool_parsing")
  | _ => throw (broken "bool_type")

/-- A text. -/
def text (v : Value) : Except Objection Text := do
  match ← decoded "string_unicode" v with
  | .text t => return t
  | _ => throw (broken "string_type")

/-- A path in normal form, or none. -/
def path : Value → Except Objection (Option Text)
  | .null => .ok none
  | .text t => .ok (some (Path.normalize t))
  | _ => .error (broken "path_type")

/-! ## 3. Ranges -/

/-- The objection to a number that is not positive. -/
def notPositive (name : String) : Objection :=
  refused (name.toList ++ " must be positive".toList)

/-- A positive whole number. -/
def positiveWhole (name : String) (v : Value) : Except Objection Int := do
  let n ← whole v
  if n ≤ 0 then throw (notPositive name)
  return n

/-- A number that is not zero or less. -/
def positiveNumber (name : String) (v : Value) : Except Objection Quantity := do
  let q ← number v
  if q.le (.finite 0) then throw (notPositive name)
  return q

/-- A whole number that is not negative. -/
def natural (name : String) (v : Value) : Except Objection Int := do
  let n ← whole v
  if n < 0 then throw (refused (name.toList ++ " cannot be negative".toList))
  return n

/-! ## 4. Members -/

/-- **A setting**: the member of a table, read, or its default if it is not there. -/
def member {α : Type} (where_ : List String) (key : String) (read : Value → Except Objection α)
    (default : α) (v : Value) : Checked α :=
  match v.member? key with
  | none => .good default
  | some w =>
    match read w with
    | .ok a => .good a
    | .error o => .bad [⟨where_ ++ [key], o.rule, o.words⟩]

/-- **A group of settings**: the member of a table that is a table itself, or the defaults. -/
def group {α : Type} (key : String) (read : Value → Checked α) (v : Value) : Checked α :=
  match v.member? key with
  | none => read (.table [])
  | some (.table ms) => read (.table ms)
  | some _ => .bad [⟨[key], "model_type", none⟩]

end Check

end Worklog
