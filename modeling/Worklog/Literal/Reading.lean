import Worklog.Literal.Token

/-!
# Reading literals

The tokens of a literal are read from left to right. A reader knows the brackets that are open
around it and whether a value is wanted or one has just been read (`Reader.step`). Where a reader
stops before the end the text has a flaw, which depends on what it has read and on what follows.

`Literal.flaw?` gives the flaw of a text, if it has one. A text in which nothing can be wrong with
the tokens may still not be a literal, as names have no values here.
-/

namespace Worklog.Literal

/-! ## 1. Readers -/

/-- What values stand between. -/
inductive Bracket where
  /-- Nothing: the whole text. -/
  | none
  /-- Nothing, where one value alone is read. -/
  | one
  | group
  /-- The brackets behind what is called. -/
  | call
  | braces
  deriving DecidableEq, Repr

/-- What the current entry between braces is. -/
inductive Entry where
  | undecided
  /-- A member of a set. -/
  | member
  /-- The key of a pair. -/
  | key
  /-- The value of a pair. -/
  | value
  deriving DecidableEq, Repr

/-- What is known of one pair of brackets. -/
structure Frame where
  bracket : Bracket
  entry : Entry
  /-- How many choices wait for their other branch. -/
  choices : Nat
  /-- The tokens of the current value, latest first. -/
  value : List Token
  deriving Repr

/-- What a reader is about to read. -/
inductive Phase where
  /-- A value, or the end of the brackets. -/
  | start
  /-- A value. -/
  | wanted
  /-- What follows a value. -/
  | had
  /-- The name behind a point. -/
  | pointed
  deriving DecidableEq, Repr

/-- A reader, in its innermost brackets. -/
structure Reader where
  inner : Frame
  /-- The brackets around these, from the inside. -/
  outer : List Frame
  phase : Phase
  deriving Repr

namespace Reader

/-- A reader of the values between brackets. -/
def ofBracket (b : Bracket) : Reader := ⟨⟨b, .undecided, 0, []⟩, [], .wanted⟩

/-- Goes on after a token of the current value. -/
def push (r : Reader) (t : Token) (phase : Phase) : Reader :=
  { r with inner := { r.inner with value := t :: r.inner.value }, phase := phase }

/-- Goes on with a new value in the same brackets. -/
def renew (r : Reader) (entry : Entry) (phase : Phase) : Reader :=
  { r with inner := { r.inner with entry := entry, value := [] }, phase := phase }

/-- Goes on between brackets that open here. -/
def enter (r : Reader) (b : Bracket) : Reader :=
  ⟨⟨b, .undecided, 0, []⟩, r.inner :: r.outer, .start⟩

/-- Goes on behind brackets that close here. The pairs of these are complete. -/
def leave (r : Reader) (t : Token) : Option Reader :=
  if r.inner.choices != 0 || (r.inner.entry == .key && r.phase != .start) then none
  else match r.outer with
    | [] => none
    | frame :: outer => some (push ⟨frame, outer, .had⟩ t .had)

/-- The signs that may stand in front of a value. -/
def signsBefore : List String := ["+", "-", "~"]

/-- The signs that may stand between two values. -/
def signsBetween : List String :=
  ["+", "-", "*", "/", "//", "%", "@", "&", "|", "^", "<<", ">>", "<", ">", "<=", ">=", "==", "!=",
   "**"]

/-- The keywords that may stand between two values. -/
def keywordsBetween : List String := ["and", "or", "in", "is"]

/-- Whether a token is one of some signs. -/
def isSign (signs : List String) : Token → Bool
  | .sign s => signs.contains (String.ofList s)
  | _ => false

/-- Whether a token is one of some keywords. -/
def isKeyword (words : List String) : Token → Bool
  | .keyword w => words.contains (String.ofList w)
  | _ => false

/-- Whether a token closes brackets. -/
def closes (t : Token) : Bool := isSign [")", "]", "\x7d"] t

/-- The step of a reader to which a value may come. -/
def stepValue (r : Reader) (t : Token) : Option Reader :=
  match t with
  | .name _ => some (r.push t .had)
  | .constant => some (r.push t .had)
  | .number => some (r.push t .had)
  | .text => some (r.push t .had)
  | .ending => if r.phase == .start && r.inner.bracket == .none then some r else none
  | _ =>
    if isSign ["("] t then some (r.enter .group)
    else if isSign ["\x7b"] t then some (r.enter .braces)
    else if isSign signsBefore t || isKeyword ["not", "await"] t then some (r.push t .wanted)
    else if isSign ["*", "**"] t && r.phase == .start && r.inner.bracket != .none then
      some (r.push t .wanted)
    else if closes t && r.phase == .start then r.leave t
    else none

/-- The step of a reader to a comma. -/
def stepComma (r : Reader) : Option Reader :=
  if r.inner.choices != 0 || r.inner.bracket == .one then none
  else match r.inner.bracket, r.inner.entry with
    | .braces, .undecided => some (r.renew .member .start)
    | .braces, .member => some (r.renew .member .start)
    | .braces, .value => some (r.renew .key .start)
    | .braces, .key => none
    | _, entry => some (r.renew entry .start)

/-- The step of a reader to a colon. -/
def stepColon (r : Reader) : Option Reader :=
  if r.inner.bracket == .braces && r.inner.choices == 0 &&
      (r.inner.entry == .undecided || r.inner.entry == .key) then
    some (r.renew .value .wanted)
  else none

/-- Whether the current value is a name alone. -/
def isName (r : Reader) : Bool :=
  match r.inner.value with
  | [.name _] => true
  | _ => false

/-- The step of a reader that has read a value. -/
def stepAfter (r : Reader) (t : Token) : Option Reader :=
  if t == .text then if r.inner.value.head? == some .text then some (r.push t .had) else none
  else if t == .ending then
    if r.inner.bracket == .none && r.inner.choices == 0 then some r else none
  else if isSign ["."] t then some (r.push t .pointed)
  else if isSign ["("] t then some (r.enter .call)
  else if isSign [","] t then r.stepComma
  else if isSign [":"] t then r.stepColon
  else if closes t then r.leave t
  else if isSign ["="] t then
    if r.inner.bracket == .call && r.isName then some (r.renew r.inner.entry .wanted) else none
  else if isSign [":="] t then
    if r.inner.bracket != .none && r.isName then some (r.renew r.inner.entry .wanted) else none
  else if isSign signsBetween t || isKeyword keywordsBetween t then some (r.push t .wanted)
  else if isKeyword ["for"] t && r.inner.bracket != .none && r.inner.bracket != .one then
    some (r.push t .wanted)
  else if isKeyword ["if"] t then
    some { r.push t .wanted with inner := { r.inner with choices := r.inner.choices + 1 } }
  else if isKeyword ["else"] t && r.inner.choices != 0 then
    some { r with
      inner := { r.inner with choices := r.inner.choices - 1, value := [] }, phase := .wanted }
  else none

/-- **The step of a reader to a token**, if it takes it. -/
def step (r : Reader) (t : Token) : Option Reader :=
  match r.phase with
  | .start => r.stepValue t
  | .wanted => r.stepValue t
  | .had => r.stepAfter t
  | .pointed =>
    match t with
    | .name _ => some (r.push t .had)
    | _ => none

/-- The reader that has taken as many tokens as it takes, and the tokens that are left. -/
def run (r : Reader) : List Token → Reader × List Token
  | [] => (r, [])
  | t :: rest =>
    match r.step t with
    | some next => run next rest
    | none => (r, t :: rest)

/-- What is left is an end of what there was. -/
theorem run_isSuffix (r : Reader) (ts : List Token) : (r.run ts).2 <:+ ts := by
  induction ts generalizing r with
  | nil => exact List.suffix_rfl
  | cons t rest ih =>
    unfold run
    split
    · exact (ih _).trans (List.suffix_cons t rest)
    · exact List.suffix_rfl

/-- Where a reader stops, it does not take the next token. -/
theorem step_run_eq_none {r : Reader} {ts : List Token} {t : Token} {rest : List Token}
    (h : (r.run ts).2 = t :: rest) : (r.run ts).1.step t = none := by
  induction ts generalizing r with
  | nil => simp [run] at h
  | cons u more ih =>
    unfold run at h ⊢
    split at h
    · rename_i next hn
      exact ih h
    · rename_i hn
      obtain ⟨rfl, rfl⟩ := List.cons.inj h
      exact hn

end Reader

/-! ## 2. Flaws -/

/-- Whether a token ends a value. -/
def endsValue : Token → Bool
  | .name _ => true
  | .constant => true
  | .number => true
  | .text => true
  | t => Reader.closes t

/-- Where a value that is read alone ends: the flaw that keeps its end from being seen, or whether
    there is one at all, and the tokens behind it. -/
def valueAt (opened : List Char) (ts : List Token) : Except Flaw (Bool × List Token) :=
  let (r, rest) := (Reader.ofBracket .one).run ts
  match rest, opened with
  | [], o :: _ => .error (.unclosed o)
  | .backslash :: _, _ => .error .backslash
  | rest, _ => .ok ((r.outer.getLast?.getD r.inner).value.any endsValue, rest)

/-- The names that mean something only where a statement starts. -/
def softKeywords : List String := ["_", "case", "match"]

/-- Whether two values may lack a comma between them. -/
def mayLackComma (value : List Token) (next : Token) : Bool :=
  match value.reverse with
  | [.name _] => next != .text && !isSoft value
  | _ => !isSoft value
where
  /-- Whether a value starts with such a name. -/
  isSoft (value : List Token) : Bool :=
    match value.getLast? with
    | some (.name t) => softKeywords.contains (String.ofList t)
    | _ => false

/-- The names that were once followed by values without brackets. -/
def calledNames : List String := ["exec", "print"]

/-- The flaw where a value follows another one. -/
def adjacentFlaw (opened : List Char) (frame : Frame) (t : Token) (rest : List Token) : Flaw :=
  match valueAt opened (t :: rest) with
  | .error f => f
  | .ok (false, _) => .misplaced
  | .ok (true, _) =>
    match frame.value with
    | [.name n] => if calledNames.contains (String.ofList n) then .missingCall n else unjoined
    | _ => unjoined
where
  /-- The flaw where nothing is called. -/
  unjoined : Flaw :=
    if frame.bracket != .none && mayLackComma frame.value t then .missingComma else .misplaced

/-- What a value is to which nothing can be assigned. -/
def assignedTo? (value : List Token) : Option Flaw :=
  match value with
  | [.name _] => some .assignment
  | [.number] => some (.assigned "literal")
  | .text :: _ => some (.assigned "literal")
  | .name _ :: .sign ['.'] :: _ => some (.assigned "attribute")
  | _ => none

/-- The flaw where an equals sign follows a value. -/
def assignmentFlaw (opened : List Char) (frame : Frame) (rest : List Token) : Flaw :=
  let admits := frame.bracket == .group ||
    (frame.bracket == .braces && (frame.entry == .undecided || frame.entry == .member))
  if !admits then .misplaced
  else match valueAt opened rest with
    | .error f => f
    | .ok (complete, next) =>
      let again := (next.head?.map (Reader.isSign ["=", ":="])).getD false
      if complete && !again then (assignedTo? frame.value).getD .misplaced else .misplaced

/-- Whether a value may start with a token that does not go on with one. -/
def startsValue : Token → Bool
  | .name _ => true
  | .constant => true
  | .number => true
  | .text => true
  | t => Reader.isSign ["\x7b", "~"] t || Reader.isKeyword ["not", "await"] t

/-- The flaw where a reader does not take a token. -/
def flawAt (opened : List Char) (r : Reader) (t : Token) (rest : List Token) : Flaw :=
  let ends := Reader.isSign [",", "\x7d"] t
  if t = .backslash then .backslash
  else match r.phase with
    | .had =>
      if r.inner.choices != 0 then if Reader.isSign [":"] t then .misplaced else .unfinishedChoice
      else if Reader.isSign ["="] t then assignmentFlaw opened r.inner rest
      else if r.inner.entry == .key && ends then .missingColon
      else if startsValue t then adjacentFlaw opened r.inner t rest
      else .misplaced
    | .wanted =>
      if r.inner.entry == .value && r.inner.value.isEmpty && ends then .missingValue
      else .misplaced
    | _ => .misplaced

/-- Whether a token may stand in a literal. -/
def hasValue : Token → Bool
  | .constant => true
  | .number => true
  | .text => true
  | .ending => true
  | t => Reader.isSign ["(", ")", "\x7b", "\x7d", ",", ":", "+", "-"] t

/-- **The flaw of a text that should be a literal**, if it has one. -/
def flaw? (t : Text) : Option Flaw :=
  match Token.all t with
  | .error f => some f
  | .ok (tokens, opened) =>
    match (Reader.ofBracket .none).run tokens, opened with
    | (_, []), [] => if tokens.all hasValue then none else some .unevaluated
    | (_, []), o :: _ => some (.unclosed o)
    | (r, t :: rest), _ => some (flawAt opened r t rest)

/-- No text is no literal. -/
theorem flaw?_nil : flaw? [] = some .misplaced := rfl

end Worklog.Literal
