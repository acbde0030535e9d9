import Worklog.Number.Figure
import Worklog.Text.Quoted

/-!
# JSON values

Snapshots, filters, settings and saved state arrive as JSON. A value keeps what the readers of
this library look at: whole numbers are told apart from numbers with a fraction or an exponent,
and an object keeps its members in the order in which their keys first appear.

* `Json.same` tells whether two values are equal, part by part;
* `Json.get?` and `Json.put` read and write the members of an object;
* `Json.truthy` is the emptiness test that optional members go through;
* `Json.display` is the text of a value inside messages and identifiers.
-/

namespace Worklog

/-- A JSON value. -/
inductive Json where
  | null
  | bool (b : Bool)
  | int (n : Int)
  | real (q : Quantity)
  | str (t : Text)
  | arr (items : List Json)
  | obj (members : List (String × Json))
  deriving Inhabited

namespace Json

mutual

/-- Whether two values are equal. -/
def same : Json → Json → Bool
  | .null, .null => true
  | .bool a, .bool b => a == b
  | .int m, .int n => m == n
  | .real q, .real r => q == r
  | .str s, .str t => s == t
  | .arr vs, .arr ws => sameItems vs ws
  | .obj ms, .obj ns => sameMembers ms ns
  | _, _ => false

/-- Whether two lists have equal items. -/
def sameItems : List Json → List Json → Bool
  | [], [] => true
  | v :: vs, w :: ws => same v w && sameItems vs ws
  | _, _ => false

/-- Whether two objects have equal members in the same order. -/
def sameMembers : List (String × Json) → List (String × Json) → Bool
  | [], [] => true
  | (k, v) :: ms, (l, w) :: ns => k == l && same v w && sameMembers ms ns
  | _, _ => false

end

mutual

theorem same_iff : ∀ {v w : Json}, same v w = true ↔ v = w
  | .null, w => by cases w <;> simp [same]
  | .bool a, w => by cases w <;> simp [same]
  | .int n, w => by cases w <;> simp [same]
  | .real q, w => by cases w <;> simp [same]
  | .str t, w => by cases w <;> simp [same]
  | .arr vs, w => by cases w <;> simp [same, sameItems_iff]
  | .obj ms, w => by cases w <;> simp [same, sameMembers_iff]

theorem sameItems_iff : ∀ {vs ws : List Json}, sameItems vs ws = true ↔ vs = ws
  | [], ws => by cases ws <;> simp [sameItems]
  | v :: vs, ws => by cases ws <;> simp [sameItems, same_iff, sameItems_iff]

theorem sameMembers_iff : ∀ {ms ns : List (String × Json)}, sameMembers ms ns = true ↔ ms = ns
  | [], ns => by cases ns <;> simp [sameMembers]
  | (k, v) :: ms, ns => by
    rcases ns with _ | ⟨⟨l, w⟩, ns⟩
    · simp [sameMembers]
    · simp [sameMembers, same_iff, sameMembers_iff]

end

instance : DecidableEq Json := fun _ _ => decidable_of_iff _ same_iff

/-- A text value from a string. -/
def ofString (s : String) : Json := .str s.toList

/-- A text value, or null. -/
def ofText? : Option Text → Json
  | none => .null
  | some t => .str t

/-- Replaces the member with a key, or adds it at the end. -/
def putMember (key : String) (v : Json) : List (String × Json) → List (String × Json)
  | [] => [(key, v)]
  | (k, w) :: rest => if k = key then (k, v) :: rest else (k, w) :: putMember key v rest

/-- The value of a member among members. -/
def lookup (key : String) : List (String × Json) → Option Json
  | [] => none
  | (k, v) :: rest => if k = key then some v else lookup key rest

/-- The member of an object; any other value has none. -/
def get? (key : String) : Json → Option Json
  | .obj ms => lookup key ms
  | _ => none

/-- The member of an object, or null where there is none. -/
def getD (key : String) (v : Json) : Json := (v.get? key).getD .null

/-- An object with one more member or another value for it. -/
def put (o : Json) (key : String) (v : Json) : Json :=
  match o with
  | .obj ms => .obj (putMember key v ms)
  | other => other

/-- A written member is read back, and no other member changes. -/
theorem lookup_putMember (key k : String) (v : Json) (ms : List (String × Json)) :
    lookup k (putMember key v ms) = if k = key then some v else lookup k ms := by
  induction ms with
  | nil => simp only [putMember, lookup, eq_comm]
  | cons m ms ih =>
    obtain ⟨k', w⟩ := m
    by_cases h : k' = key
    · subst h
      by_cases hk : k = k' <;> simp [putMember, lookup, hk, eq_comm]
    · by_cases hk : k = key
      · subst hk; simp [putMember, lookup, h, ih]
      · simp [putMember, lookup, h, ih, hk]

/-- Whether a value counts as given: null, false, zero and everything empty do not. -/
def truthy : Json → Bool
  | .null => false
  | .bool b => b
  | .int n => n != 0
  | .real q => !q.isZero
  | .str t => !t.isEmpty
  | .arr items => !items.isEmpty
  | .obj members => !members.isEmpty

/-- Whether a value is something other than null. -/
def isGiven : Json → Bool
  | .null => false
  | _ => true

/-- The number that a value is; truth values count as zero and one. -/
def amount? : Json → Option Amount
  | .bool b => some (.whole (if b then 1 else 0))
  | .int n => some (.whole n)
  | .real q => some (.real q)
  | _ => none

/-- An amount as a value. -/
def ofAmount : Amount → Json
  | .whole n => .int n
  | .real q => .real q

/-- The name of the kind of a value, as messages give it. -/
def kindName : Json → String
  | .null => "NoneType"
  | .bool _ => "bool"
  | .int _ => "int"
  | .real _ => "float"
  | .str _ => "str"
  | .arr _ => "list"
  | .obj _ => "dict"

/-- The spellings of the three values that are neither numbers nor texts. -/
structure Spelling where
  null : Text
  yes : Text
  no : Text

/-- The spellings used inside messages. -/
def spoken : Spelling := ⟨"None".toList, "True".toList, "False".toList⟩

mutual

/-- A value inside a list or an object of a message: texts stand in quotes. -/
def inner : Json → Text
  | .null => spoken.null
  | .bool b => if b then spoken.yes else spoken.no
  | .int n => Text.ofInt n
  | .real q => Figure.shortestOf Figure.plainStyle q
  | .str t => Text.quoted t
  | .arr items => '[' :: innerItems items ++ [']']
  | .obj members => '\x7b' :: innerMembers members ++ ['\x7d']

/-- The items of a list, separated by commas. -/
def innerItems : List Json → Text
  | [] => []
  | [v] => inner v
  | v :: w :: rest => inner v ++ ", ".toList ++ innerItems (w :: rest)

/-- The members of an object, separated by commas. -/
def innerMembers : List (String × Json) → Text
  | [] => []
  | [(k, v)] => Text.quoted k.toList ++ ": ".toList ++ inner v
  | (k, v) :: m :: rest =>
    Text.quoted k.toList ++ ": ".toList ++ inner v ++ ", ".toList ++ innerMembers (m :: rest)

end

/-- **The text of a value**: a text stands for itself, any other value is spelled out. -/
def display : Json → Text
  | .str t => t
  | v => inner v

end Json

end Worklog
