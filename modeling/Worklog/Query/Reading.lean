import Worklog.Query.Basic
import Worklog.Query.Day
import Worklog.Query.Duration

/-!
# Reading a query

A query is read token by token (`Query.partOf`):

* `-word` excludes a word;
* `key:value` is a filter if the key is known, in any letter case; the value may be quoted;
* `dur>value` and `dur<value` are length filters;
* a quoted token is a phrase, and every other token is text.

A token that consists of nothing but a hyphen or of quotes contributes nothing.
`Query.read` reads the whole query. The clock matters for named and relative days only.
-/

namespace Worklog.Query

open Worklog.Text

/-! ## 1. Filters -/

/-- What the key of a filter asks about. -/
inductive Key where
  | app
  | project
  | day (bound : DayBound)
  | length (bound : LengthBound)
  deriving DecidableEq, Repr

/-- The known keys. -/
def keys : List (String × Key) :=
  [("app", .app), ("application", .app), ("project", .project), ("proj", .project),
   ("after", .day .after), ("since", .day .after), ("before", .day .before),
   ("until", .day .before), ("on", .day .on), ("date", .day .on),
   ("duration", .length .same), ("dur", .length .same),
   ("minduration", .length .above), ("mindur", .length .above),
   ("maxduration", .length .below), ("maxdur", .length .below)]

/-- The key that a text writes, in any letter case. -/
def Key.ofText? (t : Text) : Option Key :=
  let t := lower t
  (keys.find? fun k => k.1.toList == t).map (·.2)

/-- The part of a filter with a known key and a value without quotes; `token` is the whole
    filter. -/
def filterPart (p : Precision) (now : Moment) (token : Text) (key : Key) (value : Text) :
    Except Fault Part :=
  if value.isEmpty then .ok (.problem (.noValue token)) else
    match key with
    | .app => .ok (.app value)
    | .project => .ok (.project value)
    | .day bound => do
      match ← Day.read now value with
      | some day => return .day ⟨bound, day⟩
      | none => return .problem (.noDay token)
    | .length bound =>
      match Duration.parse p value with
      | some seconds => .ok (.length ⟨bound, .ofRat seconds⟩)
      | none => .ok (.problem (.noLength token))

/-! ## 2. Comparisons -/

/-- Whether a character is a given small letter in either case; the dotted capital and the dotless
    small `i` count as `i`. -/
def isLetter (small c : Char) : Bool :=
  c == small || c == small.toUpper ||
    (small == 'i' && (c == Char.ofNat 0x130 || c == Char.ofNat 0x131))

/-- What follows a word at the start of a text, in any letter case. -/
def afterWord? : Text → Text → Option Text
  | [], t => some t
  | _ :: _, [] => none
  | w :: ws, c :: t => if isLetter w c then afterWord? ws t else none

/-- The line that a text consists of, a final line break not counted. -/
def onlyLine? (t : Text) : Option Text :=
  match t.dropWhile (· != '\n') with
  | [] => some t
  | ['\n'] => some (t.takeWhile (· != '\n'))
  | _ => none

/-- The bound and the value of a comparison behind its word. -/
def comparisonTail? : Text → Option (LengthBound × Text)
  | '>' :: rest => (onlyLine? rest).map (.above, ·)
  | '<' :: rest => (onlyLine? rest).map (.below, ·)
  | _ => none

/-- The bound and the value of a length comparison. -/
def comparison? (t : Text) : Option (LengthBound × Text) :=
  (afterWord? "duration".toList t >>= comparisonTail?).or
    (afterWord? "dur".toList t >>= comparisonTail?)

/-! ## 3. Tokens -/

/-- The part of a token with a colon: `key` stands before the first colon, `value` behind it. -/
def colonPart (p : Precision) (now : Moment) (token key value : Text) : Except Fault Part :=
  match Key.ofText? key with
  | some k => filterPart p now token k (unquote value)
  | none => .ok (.text token)

/-- A text as a part, unless it is empty. -/
def nonEmpty (part : Text → Part) (t : Text) : Option Part :=
  if t.isEmpty then none else some (part t)

/-- The part of a token without a colon or a leading hyphen. -/
def plainPart (p : Precision) (token : Text) : Option Part :=
  match comparison? token with
  | some (bound, value) =>
    match Duration.parse p value with
    | some seconds => some (.length ⟨bound, .ofRat seconds⟩)
    | none => some (.problem (.noLength token))
  | none =>
    if token.head? == some '"' then nonEmpty .text (unquote token) else some (.text token)

/-- **What a token contributes to its query.** -/
def partOf (p : Precision) (now : Moment) (token : Text) : Except Fault (Option Part) :=
  match token with
  | '-' :: rest => .ok (nonEmpty .excluded rest)
  | _ =>
    match token.dropWhile (· != ':') with
    | _ :: value => (colonPart p now token (token.takeWhile (· != ':')) value).map some
    | [] => .ok (plainPart p token)

/-! ## 4. Queries -/

/-- The problem of a query with an odd number of quotes. -/
def quoteProblem (q : Text) : List Part :=
  if quoteCount q % 2 = 1 then [.problem .unmatchedQuote] else []

/-- **Reads a query** at a moment. -/
def read (p : Precision) (now : Moment) (q : Text) : Except Fault Query := do
  let parts ← (tokens q).mapM (partOf p now)
  return ofParts (parts.filterMap id ++ quoteProblem q)

end Worklog.Query
