import Worklog.Text.Base64
import Worklog.Yaml.Scalar

/-!
# Tags and directives of a YAML text

A tag is written in full between angle brackets, or behind a handle that a directive of its
document explains: `!`, `!!` or a name between two exclamation marks. Directives stand on lines of
their own in front of a document; those that give the version or explain a handle are read, others
are passed over.

The functions take the cursor where a tag or a part of a directive starts, and give what it says
and the place behind it. What is not written as it should be is a fault.
-/

namespace Worklog.Yaml

/-- A tag as it is written: the handle, unless it is written in full, and what follows it. -/
structure TagName where
  handle : Option Text
  suffix : Text
  deriving DecidableEq

/-- A directive. -/
inductive Directive where
  | version (major : Nat)
  | handle (name : Text) (start : Text)
  | other
  deriving DecidableEq

/-- What a reader of a part of a text comes to. -/
abbrev Reader (α : Type) := Cursor → Except Fault (α × Cursor)

namespace TagName

/-! ## 1. Parts of tags -/

/-- Whether a character may stand in the name of a handle. -/
def isHandleChar (c : Char) : Bool := c.isAlphanum || c == '-' || c == '_'

/-- Whether a character may stand in the address of a tag. -/
def isAddressChar (c : Char) : Bool :=
  isHandleChar c || ";/?:@&=+$,.!~*()[]".toList.contains c || c.toNat = 39

/-- A place where a blank, a line break or the end has to follow; a tab is none. -/
def closed (c : Cursor) : Except Fault Unit :=
  if c.endsAt 0 && !c.sees (· == '\t') then .ok () else .error .unreadableToken

/-- The bytes of the escapes at a place, two hexadecimal digits behind each percent sign. -/
def escapedBytes : Nat → Reader (List UInt8)
  | 0, c => .ok ([], c)
  | bound + 1, c =>
    if c.sees (· == '%') then
      match hexNumber? 2 c.next.rest with
      | some n => do
        let (more, c) ← escapedBytes bound (c.next.skip 2)
        return (UInt8.ofNat n :: more, c)
      | none => .error .unreadableToken
    else .ok ([], c)

/-- The address at a place behind some of its text. -/
def addressFrom : Nat → Text → Reader Text
  | 0, acc, c => .ok (acc, c)
  | bound + 1, acc, c =>
    match c.peek with
    | some '%' => do
      let (bytes, c) ← escapedBytes c.rest.length c
      match Base64.utf8? bytes with
      | some t => addressFrom bound (acc ++ t) c
      | none => throw .unreadableToken
    | some d => if isAddressChar d then addressFrom bound (acc ++ [d]) c.next else .ok (acc, c)
    | none => .ok (acc, c)

/-- The address at a place, which may not be missing. -/
def address : Reader Text := fun c => do
  let (t, after) ← addressFrom c.rest.length [] c
  if after.rest.length = c.rest.length then throw .unreadableToken
  return (t, after)

/-- The handle at a place. -/
def handleAt : Reader Text := fun c =>
  if !c.sees (· == '!') then .error .unreadableToken
  else if c.next.sees (· == ' ') then .ok (['!'], c.next)
  else
    let name := c.next.rest.takeWhile isHandleChar
    let after := c.next.skip name.length
    if after.sees (· == '!') then .ok ('!' :: name ++ ['!'], after.next)
    else .error .unreadableToken

/-! ## 2. Tags -/

/-- Whether a handle with a second exclamation mark stands at a place. -/
def hasLongHandle (c : Cursor) : Bool :=
  (c.rest.takeWhile fun d => d == '\t' || !isGap d).contains '!'

/-- **The tag behind its exclamation mark.** -/
def scan : Reader TagName := fun c => do
  let start := c.next
  let (tag, after) ←
    if start.sees (· == '<') then do
      let (t, after) ← address start.next
      if after.sees (· == '>') then pure (⟨none, t⟩, after.next) else throw .unreadableToken
    else if start.endsAt 0 then pure ((⟨none, ['!']⟩ : TagName), start)
    else do
      let (handle, after) ← if hasLongHandle start then handleAt c else pure (['!'], start)
      let (t, after) ← address after
      pure (⟨some handle, t⟩, after)
  closed after
  return (tag, after)

end TagName

namespace Directive

/-! ## 3. Directives -/

/-- The number at a place. -/
def number : Reader Nat := fun c =>
  let ds := c.rest.takeWhile Text.isAsciiDigit
  if ds.isEmpty then .error .unreadableToken else .ok (Text.numeral ds, c.skip ds.length)

/-- A cursor behind spaces. -/
def skipSpaces (c : Cursor) : Cursor := c.skipWhile (· == ' ')

/-- The version of a directive: two numbers with a point between them. -/
def versionAt : Reader Directive := fun c => do
  let (major, c) ← number (skipSpaces c)
  if !c.sees (· == '.') then throw .unreadableToken
  let (_, c) ← number c.next
  TagName.closed c
  return (.version major, c)

/-- The handle of a directive and what it stands for. -/
def handleAt : Reader Directive := fun c => do
  let (name, c) ← TagName.handleAt (skipSpaces c)
  if !c.sees (· == ' ') then throw .unreadableToken
  let (start, c) ← TagName.address (skipSpaces c)
  TagName.closed c
  return (.handle name start, c)

/-- What follows a directive on its line may only be a comment. -/
def endOfLine (c : Cursor) : Except Fault Cursor :=
  let c := skipSpaces c
  let c := if c.sees (· == '#') then c.skipWhile (!isBreak ·) else c
  if c.peek.all isBreak then .ok c.next else .error .unreadableToken

/-- **The directive behind its percent sign**, up to the end of its line. -/
def scan : Reader Directive := fun c => do
  let name := c.next.rest.takeWhile TagName.isHandleChar
  let after := c.next.skip name.length
  if name.isEmpty then throw .unreadableToken
  TagName.closed after
  let (directive, after) ←
    if name = "YAML".toList then versionAt after
    else if name = "TAG".toList then handleAt after
    else pure (.other, after.skipWhile (!isBreak ·))
  return (directive, ← endOfLine after)

end Directive

end Worklog.Yaml
