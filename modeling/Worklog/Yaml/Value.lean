import Worklog.Calendar.Stamp
import Worklog.Json.Basic
import Worklog.Number.Numeral
import Worklog.Text.Lowercase
import Worklog.Yaml.Node

/-!
# Values of a YAML document

Each node has a value, by its kind. `Value.read` gives the value of a document.

* A scalar is read by the rules of its kind (`Value.ofText`); so is a table that holds such a scalar
  under the key for the value it stands for.
* A table takes over the members of the tables that are merged into it; its own members count first.
* Lists and tables cannot be keys of a table.

What cannot be read is a fault. Of several the one in the outermost collection counts, and among
those the first: `Value.firstFault` looks for it layer by layer, and `Value.build` builds the value
of a document that has none.
-/

namespace Worklog.Yaml

/-- A value of a document. -/
inductive Value where
  | null
  | bool (b : Bool)
  | whole (n : Int)
  | real (q : Quantity)
  | text (t : Text)
  | bytes (bs : List UInt8)
  /-- A date or a time, as it is written. -/
  | time (t : Text)
  | list (items : List Value)
  /-- A set or a table whose members have no values of their own. -/
  | set (items : List Value)
  /-- Members in the order in which they are entered: of members with one key the last counts. -/
  | table (members : List (Value × Value))
  deriving Inhabited

namespace Value

/-! ## 1. Scalars -/

/-- A text without underscores. -/
def bare (t : Text) : Text := t.filter (· != '_')

/-- The number written by parts to the base sixty, with the first part first. -/
def sixty (parts : List Int) : Int := parts.foldl (fun n d => 60 * n + d) 0

/-- The whole number that a text without sign and underscores writes. -/
def unsignedWhole : Text → Except Fault Int
  | [] => .error .emptyNumeral
  | ['0'] => .ok 0
  | '0' :: 'b' :: ds => Numeral.whole 2 ds
  | '0' :: 'x' :: ds => Numeral.whole 16 ds
  | '0' :: ds => Numeral.whole 8 ('0' :: ds)
  | t =>
    if t.contains ':' then ((t.splitOn ':').mapM (Numeral.whole 10)).map sixty
    else Numeral.whole 10 t

/-- The whole number that a text writes. -/
def wholeOf (t : Text) : Except Fault Int := do
  let (negative, u) := Text.sign (bare t)
  let n ← unsignedWhole u
  return if negative then -n else n

/-- The sum of parts to the base sixty, with the last part first. -/
def sixtyReal (p : Precision) (parts : List Quantity) : Quantity :=
  (parts.foldl (fun (sum, unit) q => (p.plus sum (p.times q (.ofNat unit)), 60 * unit))
    (Quantity.ofNat 0, 1)).1

/-- The number that a lower-cased text without sign and underscores writes. -/
def unsignedReal (t : Text) : Except Fault Quantity :=
  if t = ".inf".toList then .ok (.infinite false)
  else if t = ".nan".toList then .ok .undefined
  else if t.contains ':' then
    ((t.splitOn ':').mapM Numeral.real).map fun parts => sixtyReal .double parts.reverse
  else Numeral.real t

/-- The number that a text writes. -/
def realOf (t : Text) : Except Fault Quantity := do
  let t := Text.lower (bare t)
  if t.isEmpty then throw .emptyNumeral
  let (negative, u) := Text.sign t
  let q ← unsignedReal u
  return if negative then q.neg else q

/-- The truth value of a text in any letter case. -/
def boolOf (t : Text) : Except Fault Bool :=
  let word := Text.lower t
  if ["yes", "true", "on"].contains (String.ofList word) then .ok true
  else if ["no", "false", "off"].contains (String.ofList word) then .ok false
  else .error (.missingKey word)

/-- The microseconds of the digits of a fraction, of which six count. -/
def fractionMicros (ds : Text) : Nat :=
  Text.numeral ((ds ++ List.replicate 6 '0').take 6)

/-- The microseconds of an offset. -/
def offsetMicros (negative : Bool) (hours minutes : Text) : Int :=
  let n : Int := (Text.numeral hours * 60 + Text.numeral minutes) * 60000000
  if negative then -n else n

/-- Checks the parts of a time. -/
def checkTime (parts : Kind.TimeParts) : Except Fault Unit := do
  let date : Date := ⟨Text.numeral parts.year, Text.numeral parts.month, Text.numeral parts.day⟩
  match parts.offset with
  | some (negative, hours, minutes) =>
    let offset := offsetMicros negative hours minutes
    if Moment.dayMicros ≤ offset.natAbs then throw (.offsetTooLarge offset)
  | none => pure ()
  let clock : Stamp.Clock := match parts.clock with
    | some (hour, minute, second, fraction) =>
      ⟨Text.numeral hour, Text.numeral minute, Text.numeral second, fractionMicros fraction⟩
    | none => ⟨0, 0, 0, 0⟩
  let _ ← Stamp.check date clock

/-- The time that a text writes. -/
def timeOf (t : Text) : Except Fault Value :=
  match Kind.time? t with
  | some parts => (checkTime parts).map fun _ => .time t
  | none => .error .wrongShape

/-- The bytes that a text of ASCII characters writes. -/
def bytesOf (t : Text) : Except Fault Value :=
  match if t.all fun c => decide (c.toNat < 0x80) then Base64.decode? t else none with
  | some bs => .ok (.bytes bs)
  | none => .error .unbuildableValue

/-- **The value of a scalar of a kind.** -/
def ofText (t : Text) : Kind → Except Fault Value
  | .null => .ok .null
  | .bool => (boolOf t).map .bool
  | .whole => (wholeOf t).map .whole
  | .real => (realOf t).map .real
  | .time => timeOf t
  | .binary => bytesOf t
  | .text => .ok (.text t)
  | _ => .error .unbuildableValue

mutual

/-- The text that a node stands for as a scalar, if it does. -/
def scalarText? : Node → Option Text
  | .scalar t _ => some t
  | .table members _ => memberText? members
  | .list _ _ => none

/-- The text of the first member under the key for the value that a table stands for. -/
def memberText? : List (Node × Node) → Option Text
  | [] => none
  | (k, v) :: rest => if k.kind = .value then scalarText? v else memberText? rest

end

/-- The value of a node that is no collection. -/
def ofNode (n : Node) : Except Fault Value :=
  match scalarText? n with
  | some t => ofText t n.kind
  | none => .error .unbuildableValue

/-! ## 2. Merged tables -/

/-- A key as it stands in a table: the key for a value is a text there. -/
def plainKey : Node → Node
  | .scalar t k => .scalar t (if k = .value then .text else k)
  | n => n

mutual

/-- The members of a table: those of the tables merged into it, and then its own. -/
def flatten (members : List (Node × Node)) : Except Fault (List (Node × Node)) := do
  let (merged, own) ← parted members
  return merged ++ own

/-- The merged members of a table, and its own. -/
def parted : List (Node × Node) → Except Fault (List (Node × Node) × List (Node × Node))
  | [] => .ok ([], [])
  | (k, v) :: rest =>
    if k.kind = .merge then do
      let ms ← mergedFrom v
      let (merged, own) ← parted rest
      return (ms ++ merged, own)
    else do
      let (merged, own) ← parted rest
      return (merged, (plainKey k, v) :: own)

/-- The members that come from a node to be merged: a table, or a list of tables of which the first
    counts first. -/
def mergedFrom : Node → Except Fault (List (Node × Node))
  | .table members _ => do
    let (merged, own) ← parted members
    return merged ++ own
  | .list items _ => mergedItems items
  | .scalar _ _ => .error .unbuildableValue

/-- The members that come from a list of tables to be merged. -/
def mergedItems : List Node → Except Fault (List (Node × Node))
  | [] => .ok []
  | .table members _ :: rest => do
    let (merged, own) ← parted members
    return (← mergedItems rest) ++ merged ++ own
  | _ :: _ => .error .unbuildableValue

end

/-! ## 3. Faults -/

/-- The fault of a node as it is met: collections are looked into later. -/
def metFault (n : Node) : Except Fault Unit :=
  if n.kind.isCollection then .ok () else (ofNode n).map fun _ => ()

/-- The fault of a member of a table. -/
def memberFault (m : Node × Node) : Except Fault Unit := do
  metFault m.1
  if m.1.kind.isCollection then throw .unbuildableValue
  metFault m.2

/-- The pair that an item of a list of pairs is. -/
def pairOf : Node → Except Fault (Node × Node)
  | .table [m] _ => .ok m
  | _ => .error .unbuildableValue

/-- Checks the parts of a collection, and gives those that are collections themselves. -/
def look (n : Node) : Except Fault (List Node) := do
  let parts ← match n.kind, n with
    | .table, .table members _ => tableParts members
    | .set, .table members _ => tableParts members
    | .list, .list items _ => do
      items.forM metFault
      pure items
    | .pairs, .list items _ => pairParts items
    | .ordered, .list items _ => pairParts items
    | _, _ => throw .unbuildableValue
  return parts.filter (·.kind.isCollection)
where
  /-- The values of a table. -/
  tableParts (members : List (Node × Node)) : Except Fault (List Node) := do
    let members ← flatten members
    members.forM memberFault
    return members.map (·.2)
  /-- The keys and the values of a list of pairs. -/
  pairParts (items : List Node) : Except Fault (List Node) := do
    let parts ← items.mapM fun item => do
      let (k, v) ← pairOf item
      metFault k
      metFault v
      return [k, v]
    return parts.flatten

/-- **The first fault of a document**, layer by layer. -/
def firstFault : Nat → List Node → Except Fault Unit
  | 0, _ => .ok ()
  | _, [] => .ok ()
  | bound + 1, layer => do firstFault bound (← layer.mapM look).flatten

mutual

/-- The number of layers of a node. -/
def depth : Node → Nat
  | .scalar _ _ => 1
  | .list items _ => itemsDepth items + 1
  | .table members _ => membersDepth members + 1

/-- The greatest number of layers of some nodes. -/
def itemsDepth : List Node → Nat
  | [] => 0
  | n :: rest => max (depth n) (itemsDepth rest)

/-- The greatest number of layers of some members. -/
def membersDepth : List (Node × Node) → Nat
  | [] => 0
  | (k, v) :: rest => max (max (depth k) (depth v)) (membersDepth rest)

end

/-! ## 4. Building -/

/-- The members of a table whose nodes have given values. -/
def entries (value : Node → Value) (members : List (Node × Node)) : List (Value × Value) :=
  match flatten members with
  | .ok ms => ms.map fun m => (value m.1, value m.2)
  | .error _ => []

/-- The value of a node without faults, down to some number of layers. -/
def build : Nat → Node → Value
  | 0, _ => .null
  | bound + 1, n =>
    match n.kind, n with
    | .list, .list items _ => .list (items.map (build bound))
    | .table, .table members _ => .table (entries (build bound) members)
    | .set, .table members _ => .set ((entries (build bound) members).map (·.1))
    | .pairs, .list items _ => .list (items.map (build bound))
    | .ordered, .list items _ => .list (items.map (build bound))
    | _, n => ((ofNode n).toOption).getD .null

/-- The value of the node of a document. -/
def ofDocument (n : Node) : Except Fault Value := do
  metFault n
  let bound := depth n
  if n.kind.isCollection then firstFault bound [n]
  return build bound n

/-! ## 5. Documents -/

/-- Whether a character may stand in a text at all. -/
def isAdmitted (c : Char) : Bool :=
  let n := c.toNat
  n == 0x9 || n == 0xA || n == 0xD || (0x20 ≤ n && n ≤ 0x7E) || n == 0x85 ||
    (0xA0 ≤ n && n ≤ 0xFFFD) || 0x10000 ≤ n

/-- A text in which every line ends with the same character. -/
def unifyLines : Text → Text
  | '\r' :: '\n' :: rest => '\n' :: unifyLines rest
  | '\r' :: rest => '\n' :: unifyLines rest
  | c :: rest => c :: unifyLines rest
  | [] => []

/-- **The value of a document.** A text without a document stands for nothing. -/
def read (t : Text) : Except Fault Value := do
  let t := unifyLines t
  if t.any (!isAdmitted ·) then throw .forbiddenCharacter
  match ← Node.read? t with
  | some n => ofDocument n
  | none => return .null

/-! ## 6. Values and documents of other formats -/

mutual

/-- **The value of a JSON document.** -/
def ofJson : Json → Value
  | .null => .null
  | .bool b => .bool b
  | .int n => .whole n
  | .real q => .real q
  | .str t => .text t
  | .arr items => .list (ofJsonItems items)
  | .obj members => .table (ofJsonMembers members)

/-- The values of the items of a list. -/
def ofJsonItems : List Json → List Value
  | [] => []
  | v :: rest => ofJson v :: ofJsonItems rest

/-- The values of the members of an object. -/
def ofJsonMembers : List (String × Json) → List (Value × Value)
  | [] => []
  | (k, v) :: rest => (.text k.toList, ofJson v) :: ofJsonMembers rest

end

/-! ## 7. Parts of values -/

/-- Whether a value counts as given. -/
def truthy : Value → Bool
  | .null => false
  | .bool b => b
  | .whole n => n != 0
  | .real q => !q.isZero
  | .text t => !t.isEmpty
  | .bytes bs => !bs.isEmpty
  | .time _ => true
  | .list items => !items.isEmpty
  | .set items => !items.isEmpty
  | .table members => !members.isEmpty

/-- Whether a value is a given text. -/
def isText (t : Text) : Value → Bool
  | .text u => u == t
  | _ => false

/-- The member of a table under a text; of several the last counts. -/
def member? (key : String) : Value → Option Value
  | .table members => (members.reverse.find? fun m => m.1.isText key.toList).map (·.2)
  | _ => none

/-- Whether every key of a table is a text. -/
def hasTextKeys (members : List (Value × Value)) : Bool :=
  members.all fun m => match m.1 with
    | .text _ => true
    | _ => false

end Value

end Worklog.Yaml
