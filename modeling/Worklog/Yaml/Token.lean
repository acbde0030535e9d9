import Worklog.Yaml.Tag

/-!
# Tokens of a YAML text

Indentation and marks become tokens. A scalar or a collection may turn out to be the key of a table
only when the colon behind it is met; until then it is *pending*, and the colon puts the tokens
that start the table and the key in front of it. A pending key has to stay on its line.

`Token.scan` gives the tokens of a text. If the text cannot be cut up to its end, the last token
says why; a key that was still pending then, and what follows it, is no token yet.
-/

namespace Worklog.Yaml

/-- A token. -/
inductive Token where
  | scalar (text : Text) (plain : Bool)
  | anchor (name : Text)
  | reference (name : Text)
  | tag (name : TagName)
  | startSequence
  | startTable
  | endBlock
  | openBracket
  | closeBracket
  | openBrace
  | closeBrace
  | item
  | comma
  | key
  | value
  | directive (d : Directive)
  | startDocument
  | endDocument
  | finish
  /-- The text cannot be cut any further. -/
  | stuck (fault : Fault)
  deriving DecidableEq

/-- A place at which a key may have started. -/
structure PendingKey where
  /-- The number of tokens before it. -/
  position : Nat
  /-- Whether nothing but a key may stand there. -/
  required : Bool
  line : Nat
  column : Nat
  /-- What was left of the text there. -/
  rest : Nat

/-- The greatest number of characters that a key may have. -/
def PendingKey.maxLength : Nat := 1024

/-- Whether a pending key can no longer be one on a line where so many characters are left. -/
def PendingKey.isStale (line left : Nat) (k : PendingKey) : Bool :=
  k.line != line || decide (maxLength < k.rest - left)

/-- The state of cutting a text into tokens. -/
structure Scanner where
  cursor : Cursor
  tokens : Array Token
  /-- The columns of the open block collections, innermost first. -/
  indents : List Int
  /-- The number of open flow collections. -/
  depth : Int
  /-- Whether a key may start here. -/
  allowsKey : Bool
  /-- The pending key of each depth. -/
  pending : List (Int × PendingKey)

namespace Scanner

/-- The start of a text. -/
def start (t : Text) : Scanner := ⟨.start t, #[], [], 0, true, []⟩

/-- Whether a flow collection is open. -/
def inFlow (s : Scanner) : Bool := s.depth != 0

/-- The column of the innermost block collection. -/
def indent (s : Scanner) : Int := s.indents.headD (-1)

/-- Adds a token. -/
def push (s : Scanner) (t : Token) : Scanner := { s with tokens := s.tokens.push t }

/-- Adds a token and moves on. -/
def pushSkip (s : Scanner) (t : Token) (n : Nat) : Scanner :=
  { s with tokens := s.tokens.push t, cursor := s.cursor.skip n }

/-! ## 1. Indentation -/

/-- Closes the block collections that lie deeper than a column. -/
def unwind (s : Scanner) (column : Int) : Scanner :=
  if s.inFlow then s else
    let closing := s.indents.takeWhile fun i => decide (column < i)
    { s with
      indents := s.indents.drop closing.length
      tokens := s.tokens ++ (closing.map fun _ => Token.endBlock).toArray }

/-- Opens a block collection at a column, if it lies deeper than the innermost one. -/
def indentTo (s : Scanner) (column : Int) (t : Token) : Scanner :=
  if s.indent < column then { s with indents := column :: s.indents }.push t else s

/-! ## 2. Pending keys -/

/-- Forgets the pending key of this depth; one that had to be a key is a fault. -/
def dropPending (s : Scanner) : Except Fault Scanner :=
  match s.pending.find? fun p => p.1 == s.depth with
  | some (_, k) =>
    if k.required then .error .unreadableToken
    else .ok { s with pending := s.pending.filter fun p => p.1 != s.depth }
  | none => .ok s

/-- Forgets the pending keys that can no longer be keys. -/
def dropStale (s : Scanner) : Except Fault Scanner :=
  let left := s.cursor.rest.length
  let isStale (p : Int × PendingKey) : Bool := p.2.isStale s.cursor.line left
  if s.pending.any fun p => isStale p && p.2.required then .error .unreadableToken
  else .ok { s with pending := s.pending.filter fun p => !isStale p }

/-- Notes that a key may start here. -/
def notePending (s : Scanner) : Except Fault Scanner :=
  if s.allowsKey then do
    let s ← s.dropPending
    let k : PendingKey :=
      ⟨s.tokens.size, !s.inFlow && s.indent == (s.cursor.column : Int), s.cursor.line,
        s.cursor.column, s.cursor.rest.length⟩
    return { s with pending := (s.depth, k) :: s.pending }
  else .ok s

/-! ## 3. Marks -/

/-- The end of the text. -/
def finish (s : Scanner) : Except Fault Scanner := do
  let s ← (s.unwind (-1)).dropPending
  return s.push .finish

/-- The start or the end of a document. -/
def separator (s : Scanner) (t : Token) : Except Fault Scanner := do
  let s ← (s.unwind (-1)).dropPending
  return { s with allowsKey := false }.pushSkip t 3

/-- A directive, with the rest of its line. -/
def directive (s : Scanner) : Except Fault Scanner := do
  let s ← (s.unwind (-1)).dropPending
  let (d, c) ← Directive.scan s.cursor
  return { s with allowsKey := false, cursor := c }.push (.directive d)

/-- The opening mark of a flow collection. -/
def openFlow (s : Scanner) (t : Token) : Except Fault Scanner := do
  let s ← s.notePending
  return { s with depth := s.depth + 1, allowsKey := true }.pushSkip t 1

/-- The closing mark of a flow collection. -/
def closeFlow (s : Scanner) (t : Token) : Except Fault Scanner := do
  let s ← s.dropPending
  return { s with depth := s.depth - 1, allowsKey := false }.pushSkip t 1

/-- A comma between items. -/
def comma (s : Scanner) : Except Fault Scanner := do
  let s ← { s with allowsKey := true }.dropPending
  return s.pushSkip .comma 1

/-- The hyphen of an item. -/
def item (s : Scanner) : Except Fault Scanner := do
  if !s.inFlow && !s.allowsKey then throw .unreadableToken
  let s := if s.inFlow then s else s.indentTo s.cursor.column .startSequence
  let s ← { s with allowsKey := true }.dropPending
  return s.pushSkip .item 1

/-- The question mark of a key. -/
def questionMark (s : Scanner) : Except Fault Scanner := do
  if !s.inFlow && !s.allowsKey then throw .unreadableToken
  let s := if s.inFlow then s else s.indentTo s.cursor.column .startTable
  let s ← { s with allowsKey := !s.inFlow }.dropPending
  return s.pushSkip .key 1

/-- Puts tokens into their places before a pending key. -/
def insertKey (s : Scanner) (k : PendingKey) : Scanner :=
  let after := s.tokens.extract k.position s.tokens.size
  let opens := !s.inFlow && decide (s.indent < (k.column : Int))
  let start := if opens then #[Token.startTable, Token.key] else #[Token.key]
  { s with
    tokens := s.tokens.take k.position ++ start ++ after
    indents := if opens then (k.column : Int) :: s.indents else s.indents
    pending := s.pending.filter fun p => p.1 != s.depth
    allowsKey := false }

/-- The colon of a value. -/
def colon (s : Scanner) : Except Fault Scanner := do
  match s.pending.find? fun p => p.1 == s.depth with
  | some (_, k) => return (s.insertKey k).pushSkip .value 1
  | none =>
    if !s.inFlow && !s.allowsKey then throw .unreadableToken
    let s := if s.inFlow then s else s.indentTo s.cursor.column .startTable
    let s ← { s with allowsKey := !s.inFlow }.dropPending
    return s.pushSkip .value 1

/-! ## 4. Scalars and names -/

/-- A scalar in quotes. -/
def quoted (s : Scanner) (isDouble : Bool) : Except Fault Scanner := do
  let s ← s.notePending
  let (t, c) ← quotedScalar isDouble s.cursor.next
  return { s with allowsKey := false, cursor := c }.push (.scalar t false)

/-- A plain scalar. -/
def plain (s : Scanner) : Except Fault Scanner := do
  let s ← s.notePending
  let r := plainScalar s.inFlow (s.indent + 1) s.cursor
  return { s with allowsKey := r.broke, cursor := r.cursor }.push (.scalar r.text true)

/-- A block scalar. -/
def block (s : Scanner) (isFolded : Bool) : Except Fault Scanner := do
  let s ← { s with allowsKey := true }.dropPending
  let (t, c) ← blockScalar isFolded s.indent s.cursor.next
  return { s with cursor := c }.push (.scalar t false)

/-- The characters that may follow the name of an anchor besides gaps. -/
def nameEnds : List Char := ['?', ':', ',', ']', '}', '%', '@', Char.ofNat 96]

/-- An anchor or a reference to one. -/
def name (s : Scanner) (make : Text → Token) : Except Fault Scanner := do
  let s ← s.notePending
  let c := s.cursor.next
  let t := c.rest.takeWhile TagName.isHandleChar
  let c := c.skip t.length
  if t.isEmpty then throw .unreadableToken
  match c.peek with
  | some d =>
    if !isGap d && !nameEnds.contains d then throw .unreadableToken
  | none => pure ()
  return { s with allowsKey := false, cursor := c }.push (make t)

/-- A tag. -/
def tag (s : Scanner) : Except Fault Scanner := do
  let s ← s.notePending
  let (t, c) ← TagName.scan s.cursor
  return { s with allowsKey := false, cursor := c }.push (.tag t)

/-! ## 5. The scan -/

/-- Moves past spaces, comments and line breaks. -/
def skipGaps : Nat → Scanner → Scanner
  | 0, s => s
  | bound + 1, s =>
    let c := s.cursor.skipWhile (· == ' ')
    let c := if c.sees (· == '#') then c.skipWhile (!isBreak ·) else c
    if c.sees isBreak then
      skipGaps bound { s with cursor := c.lineBreak.2, allowsKey := s.allowsKey || !s.inFlow }
    else { s with cursor := c }

/-- The characters that start no plain scalar. -/
def indicators : List Char :=
  ['-', '?', ':', ',', '[', ']', '{', '}', '#', '&', '*', '!', '|', '>', Char.ofNat 39, '"', '%',
   '@', Char.ofNat 96]

/-- Whether a plain scalar starts with a character, where `solid` says that no gap follows it. -/
def startsPlain (s : Scanner) (c : Char) (solid : Bool) : Bool :=
  (!isGap c && !indicators.contains c) ||
    (solid && (c == '-' || (!s.inFlow && (c == '?' || c == ':'))))

/-- The token that starts with a character. -/
def fetchAt (s : Scanner) (c : Char) : Except Fault Scanner :=
  let solid := !s.cursor.endsAt 1
  let atStart := s.cursor.column == 0
  if c == '%' && atStart then s.directive
  else if atStart && c == '-' && s.cursor.atSeparator then s.separator .startDocument
  else if atStart && c == '.' && s.cursor.atSeparator then s.separator .endDocument
  else if c == '[' then s.openFlow .openBracket
  else if c == '\x7b' then s.openFlow .openBrace
  else if c == ']' then s.closeFlow .closeBracket
  else if c == '\x7d' then s.closeFlow .closeBrace
  else if c == ',' then s.comma
  else if c == '-' && !solid then s.item
  else if c == '?' && (s.inFlow || !solid) then s.questionMark
  else if c == ':' && (s.inFlow || !solid) then s.colon
  else if c == '*' then s.name .reference
  else if c == '&' then s.name .anchor
  else if c == '!' then s.tag
  else if c == '|' && !s.inFlow then s.block false
  else if c == '>' && !s.inFlow then s.block true
  else if c.toNat == 39 then s.quoted false
  else if c == '"' then s.quoted true
  else if s.startsPlain c solid then s.plain
  else .error .unreadableToken

/-- The next tokens. At the end of the text these are the last ones. -/
def fetch (s : Scanner) : Except Fault Scanner := do
  let s ← (skipGaps (s.cursor.rest.length + 1) s).dropStale
  let s := s.unwind s.cursor.column
  match s.cursor.peek with
  | none => s.finish
  | some c => s.fetchAt c

/-- The tokens before the first pending key, and why there are no more. -/
def stuck (s : Scanner) (f : Fault) : List Token :=
  let certain := s.pending.foldl (fun n p => min n p.2.position) s.tokens.size
  s.tokens.toList.take certain ++ [.stuck f]

/-- Fetches tokens up to the end of the text. -/
def fetchAll : Nat → Scanner → List Token
  | 0, s => s.tokens.toList
  | bound + 1, s =>
    match s.dropStale with
    | .error f => s.stuck f
    | .ok s =>
      match s.fetch with
      | .error f => s.stuck f
      | .ok after =>
        if after.tokens.back? = some .finish then after.tokens.toList else fetchAll bound after

end Scanner

/-- **The tokens of a text.** -/
def Token.scan (t : Text) : List Token :=
  Scanner.fetchAll (t.length + 2) (.start t)

end Worklog.Yaml
