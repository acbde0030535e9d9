import Worklog.Json.Basic

/-!
# Writing JSON

`Json.compact` writes a value on one line, `Json.pretty` with one member or item per line and two
spaces for each level. Both keep to ASCII: every other character is written as the escape of its
UTF-16 units.
-/

namespace Worklog.Json

/-- The escape of one UTF-16 unit. -/
def unitEscape (n : Nat) : Text := "\\u".toList ++ Text.hex 4 n

/-- One character inside a JSON string. -/
def escapeChar (c : Char) : Text :=
  let n := c.toNat
  if c == '"' || c == '\\' then ['\\', c]
  else if n == 8 then "\\b".toList
  else if n == 9 then "\\t".toList
  else if n == 10 then "\\n".toList
  else if n == 12 then "\\f".toList
  else if n == 13 then "\\r".toList
  else if 0x20 ≤ n && n < 0x7F then [c]
  else if n < 0x10000 then unitEscape n
  else
    let m := n - 0x10000
    unitEscape (0xD800 + m / 0x400) ++ unitEscape (0xDC00 + m % 0x400)

/-- A JSON string. -/
def stringText (t : Text) : Text := '"' :: t.flatMap escapeChar ++ ['"']

mutual

/-- A value on one line. -/
def compact : Json → Text
  | .null => "null".toList
  | .bool b => if b then "true".toList else "false".toList
  | .int n => Text.ofInt n
  | .real q => Figure.shortestOf Figure.documentStyle q
  | .str t => stringText t
  | .arr items => '[' :: compactItems items ++ [']']
  | .obj members => '\x7b' :: compactMembers members ++ ['\x7d']

/-- Items on one line. -/
def compactItems : List Json → Text
  | [] => []
  | [v] => compact v
  | v :: w :: rest => compact v ++ ", ".toList ++ compactItems (w :: rest)

/-- Members on one line. -/
def compactMembers : List (String × Json) → Text
  | [] => []
  | [(k, v)] => stringText k.toList ++ ": ".toList ++ compact v
  | (k, v) :: m :: rest =>
    stringText k.toList ++ ": ".toList ++ compact v ++ ", ".toList ++ compactMembers (m :: rest)

end

/-- A line break and the blanks of a level. -/
def newline (level : Nat) : Text := '\n' :: List.replicate (2 * level) ' '

mutual

/-- A value that starts at a level of indentation. -/
def prettyAt (level : Nat) : Json → Text
  | .arr (v :: rest) =>
    '[' :: prettyItems (level + 1) (v :: rest) ++ newline level ++ [']']
  | .obj (m :: rest) =>
    '\x7b' :: prettyMembers (level + 1) (m :: rest) ++ newline level ++ ['\x7d']
  | v => compact v

/-- Items, each on a line of its own. -/
def prettyItems (level : Nat) : List Json → Text
  | [] => []
  | [v] => newline level ++ prettyAt level v
  | v :: w :: rest => newline level ++ prettyAt level v ++ ',' :: prettyItems level (w :: rest)

/-- Members, each on a line of its own. -/
def prettyMembers (level : Nat) : List (String × Json) → Text
  | [] => []
  | [(k, v)] => newline level ++ stringText k.toList ++ ": ".toList ++ prettyAt level v
  | (k, v) :: m :: rest =>
    newline level ++ stringText k.toList ++ ": ".toList ++ prettyAt level v ++
      ',' :: prettyMembers level (m :: rest)

end

/-- **A value over several lines.** -/
def pretty (v : Json) : Text := prettyAt 0 v

end Worklog.Json
