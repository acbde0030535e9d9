import Worklog.Table
import Worklog.Yaml.Kind
import Worklog.Yaml.Token

/-!
# Nodes of a YAML document

A document is a node: a scalar, a list of nodes or a table of nodes. `Node.read?` builds the node of
a text from its tokens; an empty text has none. Nodes that are left out are empty plain scalars, and
lists and tables may be nested to a fixed depth.

The grammar is read by recursive functions with a bound on their depth, which the number of tokens
supplies.
-/

namespace Worklog.Yaml

/-- A node of a document and its kind, which need not be one of nodes of its form. -/
inductive Node where
  | scalar (text : Text) (kind : Kind)
  | list (items : List Node) (kind : Kind)
  | table (members : List (Node × Node)) (kind : Kind)
  deriving Inhabited

namespace Node

/-- The kind of a node. -/
def kind : Node → Kind
  | .scalar _ k => k
  | .list _ k => k
  | .table _ k => k

/-- A node that was left out. -/
def absent : Node := .scalar [] .null

/-- A table without members. -/
def emptyTable : Node := .table [] .table

/-- What is left of the tokens, what the handles of tags stand for, the nodes that have names, and
    whether a node was referred to from within. -/
structure State where
  tokens : List Token
  handles : Table Text Text
  anchors : Table Text Node
  /-- The names of the nodes that are not complete yet. -/
  started : List Text
  circular : Bool
  /-- The number of lists and tables around the next node. -/
  depth : Nat

/-- Reading tokens. What stands for a node that is referred to from within is given: the node as
    it was read before. -/
abbrev Reading := ReaderT (Table Text Node) (StateT State (Except Fault))

/-! ## 1. Single tokens -/

/-- The next token; a text that cannot be cut further is a fault. -/
def peek : Reading Token := do
  match (← get).tokens with
  | .stuck f :: _ => throwThe Fault f
  | t :: _ => return t
  | [] => return .finish

/-- Moves past a token. -/
def advance : Reading Unit := modify fun s => { s with tokens := s.tokens.drop 1 }

/-- Moves past the next token if it is a given one, and says whether it was. -/
def accept (t : Token) : Reading Bool := do
  if (← peek) = t then
    advance
    return true
  else return false

/-- Whether the next token is one of some. -/
def isNext (ts : List Token) : Reading Bool := do return ts.contains (← peek)

/-- A token is not where it may be. -/
def misplaced {α : Type} : Reading α := throwThe Fault .misplacedToken

/-- A reference or a name is not as it should be. -/
def loose {α : Type} : Reading α := throwThe Fault .looseReference

/-! ## 2. Properties -/

/-- The tag and the name in front of a node, in either order, each at most once. -/
def properties : Reading (Option TagName × Option Text) := do
  match ← peek with
  | .anchor a =>
    advance
    match ← peek with
    | .tag t =>
      advance
      return (some t, some a)
    | _ => return (none, some a)
  | .tag t =>
    advance
    match ← peek with
    | .anchor a =>
      advance
      return (some t, some a)
    | _ => return (some t, none)
  | _ => return (none, none)

/-- A tag in full: its handle has to stand for something. -/
def fullTag : Option TagName → Reading (Option Text)
  | none => return none
  | some ⟨none, suffix⟩ => return some suffix
  | some ⟨some handle, suffix⟩ => do
    match (← get).handles.get? handle with
    | some start => return some (start ++ suffix)
    | none => misplaced

/-- The tag that says as much as none. -/
def plainTag : Text := ['!']

/-- The kind of a node with a tag, or its kind without a tag. -/
def kindOf (tag : Option Text) (default : Kind) : Kind :=
  match tag with
  | some t => if t = plainTag then default else .ofTag t
  | none => default

/-- The kind of a scalar: one in quotes is a text unless it has a tag. -/
def scalarKind (tag : Option Text) (text : Text) (plain : Bool) : Kind :=
  kindOf tag (if plain || tag.isSome then .ofPlain text else .text)

/-- Starts a node that may have a name, which no other node has. Until it is complete, what is
    known of it stands for it. -/
def start (name : Option Text) : Reading Unit := do
  match name with
  | some a =>
    if (← get).anchors.has a then loose
    let known := (← read).getD a emptyTable
    modify fun s => { s with anchors := s.anchors.put a known, started := a :: s.started }
  | none => pure ()

/-- Completes a node that may have a name. -/
def complete (name : Option Text) (n : Node) : Reading Node := do
  match name with
  | some a =>
    modify fun s => { s with anchors := s.anchors.put a n, started := s.started.erase a }
  | none => pure ()
  return n

/-- The node with a name. -/
def named (name : Text) : Reading Node := do
  let s ← get
  match s.anchors.get? name with
  | some n =>
    if s.started.contains name then set { s with circular := true }
    return n
  | none => loose

/-! ## 3. Nodes -/

/-- How deeply lists and tables may be nested. -/
def maxDepth : Nat := 480

/-- Reads what stands one level deeper. -/
def nested {α : Type} (reading : Reading α) : Reading α := do
  if maxDepth ≤ (← get).depth then throwThe Fault (.tooDeep none)
  modify fun s => { s with depth := s.depth + 1 }
  let a ← reading
  modify fun s => { s with depth := s.depth - 1 }
  return a

/-- Whether a node without properties may start with a token. -/
def mayStart (inBlock bare : Bool) : Token → Bool
  | .scalar _ _ => true
  | .openBracket => true
  | .openBrace => true
  | .startSequence => inBlock
  | .startTable => inBlock
  | .item => bare
  | _ => false

mutual

/-- A node. Block collections are admitted where `inBlock` says so; where `bare` says so, the items
    of a list may stand without an indentation of their own. -/
def node : Nat → Bool → Bool → Reading Node
  | 0, _, _ => misplaced
  | bound + 1, inBlock, bare => do
    match ← peek with
    | .reference name =>
      advance
      named name
    | _ =>
      let (tagName, name) ← properties
      let tag ← fullTag tagName
      let t ← peek
      if mayStart inBlock bare t then
        start name
        complete name (← nested (collection bound tag t))
      else if tag.isSome || name.isSome then
        start name
        complete name (.scalar [] (scalarKind tag [] true))
      else misplaced

/-- The node that starts with a token. -/
def collection : Nat → Option Text → Token → Reading Node
  | 0, _, _ => misplaced
  | bound + 1, tag, t => do
    if t = .item then return .list (← bareItems bound) (kindOf tag .list)
    advance
    match t with
    | .scalar text plain => return .scalar text (scalarKind tag text plain)
    | .openBracket => return .list (← flowItems bound true) (kindOf tag .list)
    | .openBrace => return .table (← flowMembers bound true) (kindOf tag .table)
    | .startSequence => return .list (← blockItems bound) (kindOf tag .list)
    | _ => return .table (← blockMembers bound) (kindOf tag .table)

/-- A node of some kind, unless one of some tokens is next. -/
def optional : Nat → Bool → Bool → List Token → Reading Node
  | 0, _, _, _ => misplaced
  | bound + 1, inBlock, bare, ends => do
    if ← isNext ends then return absent else node bound inBlock bare

/-- The items of a list with an indentation of its own. -/
def blockItems : Nat → Reading (List Node)
  | 0 => misplaced
  | bound + 1 => do
    if ← accept .item then
      let n ← optional bound true false [.item, .endBlock]
      return n :: (← blockItems bound)
    else if ← accept .endBlock then return []
    else misplaced

/-- The items of a list that shares the indentation of its table. -/
def bareItems : Nat → Reading (List Node)
  | 0 => misplaced
  | bound + 1 => do
    if ← accept .item then
      let n ← optional bound true false [.item, .key, .value, .endBlock]
      return n :: (← bareItems bound)
    else return []

/-- The members of a table with an indentation of its own. -/
def blockMembers : Nat → Reading (List (Node × Node))
  | 0 => misplaced
  | bound + 1 => do
    if ← accept .key then
      let k ← optional bound true true [.key, .value, .endBlock]
      let v ← if ← accept .value then optional bound true true [.key, .value, .endBlock]
        else pure absent
      return (k, v) :: (← blockMembers bound)
    else if ← accept .endBlock then return []
    else misplaced

/-- The items of a list in brackets; a pair among them is a table of its own. -/
def flowItems : Nat → Bool → Reading (List Node)
  | 0, _ => misplaced
  | bound + 1, first => do
    if ← accept .closeBracket then return []
    if !first then
      if !(← accept .comma) then misplaced
    if ← accept .closeBracket then return []
    let n ← if ← accept .key then do
        let k ← optional bound false false [.value, .comma, .closeBracket]
        let v ← if ← accept .value then optional bound false false [.comma, .closeBracket]
          else pure absent
        pure (Node.table [(k, v)] .table)
      else node bound false false
    return n :: (← flowItems bound false)

/-- The members of a table in braces. -/
def flowMembers : Nat → Bool → Reading (List (Node × Node))
  | 0, _ => misplaced
  | bound + 1, first => do
    if ← accept .closeBrace then return []
    if !first then
      if !(← accept .comma) then misplaced
    if ← accept .closeBrace then return []
    let m ← if ← accept .key then do
        let k ← optional bound false false [.value, .comma, .closeBrace]
        let v ← if ← accept .value then optional bound false false [.comma, .closeBrace]
          else pure absent
        pure (k, v)
      else do
        pure (← node bound false false, absent)
    return m :: (← flowMembers bound false)

end

/-! ## 4. Documents -/

/-- What the handles stand for that no directive explains. -/
def commonHandles : Table Text Text := [(['!'], ['!']), (['!', '!'], Kind.tagStart)]

/-- The tokens at which a document without a node ends. -/
def endsDocument : Token → Bool
  | .directive _ => true
  | .startDocument => true
  | .endDocument => true
  | .finish => true
  | _ => false

/-- Moves past marks at which documents end. -/
def skipEnds : Nat → Reading Unit
  | 0 => pure ()
  | bound + 1 => do if ← accept .endDocument then skipEnds bound

/-- Moves past directives: the version is given once at most and has to be 1, and no handle is
    explained twice. Gives what the handles stand for. -/
def directives : Nat → Bool → Table Text Text → Reading (Table Text Text)
  | 0, _, handles => return handles
  | bound + 1, versioned, handles => do
    match ← peek with
    | .directive d =>
      advance
      match d with
      | .version major =>
        if versioned || major != 1 then misplaced
        directives bound true handles
      | .handle name full =>
        if handles.has name then misplaced
        directives bound versioned (handles.put name full)
      | .other => directives bound versioned handles
    | _ => return handles

/-- The start of a document: directives and the mark. -/
def header (bound : Nat) : Reading Unit := do
  let handles ← directives bound false []
  if !(← accept .startDocument) then misplaced
  modify fun s => { s with handles := handles ++ commonHandles }

/-- The only document of a text, if there is one. -/
def document (bound : Nat) : Reading (Option Node) := do
  let isMarked ← match ← peek with
    | .directive _ => pure true
    | .startDocument => pure true
    | .finish => pure true
    | _ => pure false
  let n ← if isMarked then do
      if (← peek) = .finish then return none
      header bound
      if endsDocument (← peek) then pure absent else node bound true false
    else node bound true false
  skipEnds bound
  if (← peek) = .finish then return some n
  header bound
  loose

/-- Reads a document from its tokens, where some nodes are known that are referred to from
    within. -/
def readOnce (tokens : List Token) (known : Table Text Node) :
    Except Fault (Option Node × State) :=
  ((document (8 * tokens.length + 16)).run known).run ⟨tokens, commonHandles, [], [], false, 0⟩

/-- **Reads the node of a text**, if it has one. A node that is referred to from within has no end:
    three layers of it are read, behind which it is an empty table. -/
def read? (t : Text) : Except Fault (Option Node) := do
  let tokens := Token.scan t
  let (n, s) ← readOnce tokens []
  if !s.circular then return n
  let (_, s) ← readOnce tokens s.anchors
  let (n, _) ← readOnce tokens s.anchors
  return n

end Node

end Worklog.Yaml
