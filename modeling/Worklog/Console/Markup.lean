import Worklog.Console.Handler
import Worklog.Console.Pictograph
import Worklog.Console.Style

/-!
# Marked-up text

What the program prints may hold tags in square brackets that set a style, as in
`[dim]a note[/dim]`. A tag starts with a small letter, `#`, `/` or `@`; one that starts with `/`
closes the latest tag of the same style (`Style.normalName`), or the latest one at all if it names
none. A backslash before a tag makes plain text of it, and two backslashes there stand for one. In
the words between tags, names of pictographs stand for them.

Output here has no styles, so of a marked-up text only the words remain: `Markup.plain`. It fails
where a tag is closed that is not open, and where one is closed whose handler cannot be read.
-/

namespace Worklog.Markup

/-- A tag that opens a style: its name, and what stands behind its equals sign. -/
structure Opening where
  name : Text
  parameters : Text
  deriving DecidableEq, Repr

/-- A piece of a marked-up text. -/
inductive Piece where
  | words (t : Text)
  | opening (o : Opening)
  /-- The whole tag, the name it closes, and where it stands. -/
  | closing (tag name : Text) (position : Nat)

/-! ## 1. Tags -/

/-- Whether a tag may start with a character. -/
def startsTag (c : Char) : Bool :=
  (decide ('a' ≤ c) && decide (c ≤ 'z')) || c == '#' || c == '/' || c == '@'

/-- The words of a tag at the start of a text. -/
def tagAt? : Text → Option Text
  | '[' :: c :: rest =>
    let words := (c :: rest).takeWhile fun d => d != '[' && d != ']'
    if startsTag c && (rest.drop (words.length - 1)).head? == some ']' then some words else none
  | _ => none

/-- What stands in front of the first equals sign. -/
def nameOf (words : Text) : Text := words.takeWhile (· != '=')

/-- The piece that a tag at a position is. -/
def pieceOf (words : Text) (position : Nat) : Piece :=
  match words with
  | '/' :: rest => .closing ('[' :: words ++ [']']) (nameOf rest) position
  | _ => .opening ⟨nameOf words, (words.dropWhile (· != '=')).drop 1⟩

/-- The tag that a text begins with, with the backslashes before it: the pieces that these are,
    and how many characters they take. -/
def tagPieces? (position : Nat) (t : Text) : Option (List Piece × Nat) := do
  let slashes := (t.takeWhile (· == '\\')).length
  let words ← tagAt? (t.drop slashes)
  let bracketed := '[' :: words ++ [']']
  let tag := if slashes % 2 = 1 then .words bracketed else pieceOf words (position + slashes)
  return ([.words (List.replicate (slashes / 2) '\\'), tag], slashes + bracketed.length)

/-- The pieces of a text from a position on, after some characters that are passed over, where
    `before` holds the latest words, last character first. -/
def piecesFrom (before : Text) (skip position : Nat) : Text → List Piece
  | [] => [.words before.reverse]
  | c :: rest =>
    match skip with
    | s + 1 => piecesFrom before s (position + 1) rest
    | 0 =>
      match tagPieces? position (c :: rest) with
      | some (pieces, taken) =>
        .words before.reverse :: pieces ++ piecesFrom [] (taken - 1) (position + 1) rest
      | none =>
        if c == '\\' && rest.head? == some '[' then
          piecesFrom ('[' :: before) 1 (position + 1) rest
        else piecesFrom (c :: before) 0 (position + 1) rest

/-- **The pieces of a marked-up text**; without a bracket there are no tags to look for. -/
def pieces (t : Text) : List Piece := if t.contains '[' then piecesFrom [] 0 0 t else [.words t]

/-! ## 2. Words -/

/-- The tag that a closing tag closes, and the tags that are still open. -/
def close (opened : List Opening) (tag name : Text) (position : Nat) :
    Except Fault (Opening × List Opening) :=
  if Text.isBlankText name then
    match opened with
    | [] => .error (.nothingToClose position)
    | o :: opened => .ok (o, opened)
  else do
    let name ← Style.normalName name
    match opened.find? (·.name == name) with
    | none => throw (.tagNotOpen tag position)
    | some o => return (o, opened.erase o)

/-- The fault of a tag that is closed, if its handler has one. -/
def faultOf? (o : Opening) : Option Fault :=
  if o.name.head? == some '@' then Handler.fault? o.parameters else none

/-- The words between the tags, given the tags that are open, latest first. -/
def wordsOf (opened : List Opening) : List Piece → Except Fault Text
  | [] => .ok []
  | .words t :: rest => (wordsOf opened rest).map (Pictograph.inText t ++ ·)
  | .opening o :: rest => do
    wordsOf ({ o with name := ← Style.normalName o.name } :: opened) rest
  | .closing tag name position :: rest => do
    let (o, opened) ← close opened tag name position
    if let some f := faultOf? o then throw f
    wordsOf opened rest

/-- The code points that a terminal would obey instead of showing them. -/
def obeyed : List Nat := [7, 8, 11, 12, 13]

/-- **The words of a marked-up text.** -/
def plain (t : Text) : Except Fault Text := do
  return (← wordsOf [] (pieces t)).filter fun c => !obeyed.contains c.toNat

/-- Words alone stay as they are, but for their pictographs. -/
@[simp] theorem wordsOf_words (opened : List Opening) (t : Text) :
    wordsOf opened [.words t] = .ok (Pictograph.inText t) := by
  simp [wordsOf, Except.map]

end Worklog.Markup
