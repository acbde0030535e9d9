import Worklog.Text.Letter
import Worklog.Text.Quoted

/-!
# The tokens of literals

A literal writes a value: a number, a text between quotes, a truth value, or several of them in
brackets. The file cuts the text of a literal into tokens.

* `Literal.Flaw` lists what may be wrong with the text of a literal, and `Flaw.message` says it;
* `Token.all` gives the tokens, with the brackets that are still open at the end. It fails at
  characters that make up no token and at brackets that do not match.
-/

namespace Worklog.Literal

/-- What is wrong with the text of a literal. -/
inductive Flaw where
  /-- A text between quotes that does not end on its line. -/
  | openText (line : Nat)
  /-- A text between triple quotes that does not end. -/
  | openLongText (line : Nat)
  | strange (c : Char)
  | hidden (c : Char)
  /-- A backslash that is not at the end of a line. -/
  | backslash
  /-- A number of some kind with a character that does not belong to it. -/
  | numeral (kind : String)
  /-- A number of some kind with a digit that its base does not have. -/
  | digit (c : Char) (kind : String)
  | leadingZeros
  | unmatched (closing : Char)
  | mismatched (closing opening : Char)
  | tooDeep
  | unclosed (opening : Char)
  | missingComma
  /-- A value behind a name that has to be called. -/
  | missingCall (name : Text)
  | missingColon
  | missingValue
  | unfinishedChoice
  /-- An equals sign behind a name. -/
  | assignment
  /-- An equals sign behind something else. -/
  | assigned (what : String)
  /-- Tokens in an order that nothing is written in. -/
  | misplaced
  /-- An expression that would have to be evaluated. -/
  | unevaluated
  deriving DecidableEq, Repr

/-- A character between single quotes. -/
def Flaw.shown (c : Char) : Text := [Text.singleQuote, c, Text.singleQuote]

/-- The code point of a character. -/
def Flaw.codePoint (c : Char) : Text :=
  "U+".toList ++ (Text.hex 4 c.toNat).map Char.toUpper

/-- **The words for a flaw.** -/
def Flaw.message : Flaw → Text
  | .openText line =>
    "unterminated string literal (detected at line ".toList ++ Text.ofNat line ++ [')']
  | .openLongText line =>
    "unterminated triple-quoted string literal (detected at line ".toList ++ Text.ofNat line ++
      [')']
  | .strange c =>
    "invalid character ".toList ++ shown c ++ " (".toList ++ codePoint c ++ [')']
  | .hidden c => "invalid non-printable character ".toList ++ codePoint c
  | .backslash => "unexpected character after line continuation character".toList
  | .numeral kind => "invalid ".toList ++ kind.toList ++ " literal".toList
  | .digit c kind =>
    "invalid digit ".toList ++ shown c ++ " in ".toList ++ kind.toList ++ " literal".toList
  | .leadingZeros => ("leading zeros in decimal integer literals are not permitted; " ++
      "use an 0o prefix for octal integers").toList
  | .unmatched c => "unmatched ".toList ++ shown c
  | .mismatched closing opening =>
    "closing parenthesis ".toList ++ shown closing ++
      " does not match opening parenthesis ".toList ++ shown opening
  | .tooDeep => "too many nested parentheses".toList
  | .unclosed c => shown c ++ " was never closed".toList
  | .missingComma => "invalid syntax. Perhaps you forgot a comma?".toList
  | .missingCall name =>
    "Missing parentheses in call to ".toList ++ Text.quoted name ++ ". Did you mean ".toList ++
      name ++ "(...)?".toList
  | .missingColon => "':' expected after dictionary key".toList
  | .missingValue => "expression expected after dictionary key and ':'".toList
  | .unfinishedChoice => "expected 'else' after 'if' expression".toList
  | .assignment => "invalid syntax. Maybe you meant '==' or ':=' instead of '='?".toList
  | .assigned what =>
    "cannot assign to ".toList ++ what.toList ++
      " here. Maybe you meant '==' instead of '='?".toList
  | .misplaced => "invalid syntax".toList
  | .unevaluated => "malformed node or string".toList

/-- A token of a literal. -/
inductive Token where
  | name (t : Text)
  /-- A name with a meaning of its own that is no value. -/
  | keyword (t : Text)
  | constant
  | number
  | text
  /-- A bracket, an operator or any other sign. -/
  | sign (t : Text)
  /-- A backslash, behind which nothing is read. -/
  | backslash
  /-- The end, where no bracket is open. -/
  | ending
  deriving DecidableEq, Repr

namespace Token

/-! ## 1. Numbers -/

/-- What may follow in a run of digits. -/
inductive Run where
  /-- A digit, or an underscore before one. -/
  | start
  /-- A digit, which must follow. -/
  | wanted
  /-- Another digit, an underscore before one, or the end of the run. -/
  | free
  deriving DecidableEq, Repr

/-- What follows a run of digits. -/
def afterDigits (isDigit : Char → Bool) (flaw : Option Char → Flaw) :
    Run → Text → Except Flaw Text
  | .free, [] => .ok []
  | _, [] => .error (flaw none)
  | state, c :: rest =>
    if isDigit c then afterDigits isDigit flaw .free rest
    else if c == '_' && state != .wanted then afterDigits isDigit flaw .wanted rest
    else if state == .free then .ok (c :: rest)
    else .error (flaw (some c))

/-- The words that may follow a number at once. -/
def wordsBehindNumbers : List String := ["and", "else", "for", "or", "not"]

/-- The same, where more letters may follow. -/
def startsBehindNumbers : List String := ["if", "in", "is"]

/-- Whether a character of ASCII may stand in a name. -/
def isAsciiNameChar (c : Char) : Bool := c.isAlphanum || c == '_'

/-- Whether a character may stand in a name, as far as tokens are cut. -/
def isNameChar (c : Char) : Bool := isAsciiNameChar c || decide (128 ≤ c.toNat)

/-- What follows a number of some kind that ends here. -/
def endNumber (kind : String) (rest : Text) : Except Flaw Text :=
  let name := String.ofList (rest.takeWhile isNameChar)
  if wordsBehindNumbers.contains name ||
      startsBehindNumbers.any fun w => w.toList.isPrefixOf rest then .ok rest
  else if (rest.head?.map isAsciiNameChar).getD false then .error (.numeral kind)
  else .ok rest

/-- Whether a text starts with a digit. -/
def startsDigit (t : Text) : Bool := (t.head?.map Text.isAsciiDigit).getD false

/-- What follows a run of decimal digits of which the first has been read. -/
def afterDecimals (t : Text) : Except Flaw Text :=
  afterDigits Text.isAsciiDigit (fun _ => .numeral "decimal") .free t

/-- What follows the mark of an imaginary number, if it stands here. -/
def afterMark : Text → Except Flaw Text
  | c :: rest => if c == 'j' || c == 'J' then endNumber "imaginary" rest
    else endNumber "decimal" (c :: rest)
  | [] => .ok []

/-- What follows an exponent, if one stands here. -/
def afterExponent (t : Text) : Except Flaw Text :=
  match t with
  | e :: rest =>
    if e == 'e' || e == 'E' then
      match rest with
      | c :: more =>
        if c == '+' || c == '-' then
          if startsDigit more then do afterMark (← afterDecimals more)
          else .error (.numeral "decimal")
        else if Text.isAsciiDigit c then do afterMark (← afterDecimals more)
        else endNumber "decimal" t
      | [] => endNumber "decimal" t
    else afterMark t
  | [] => .ok []

/-- What follows the digits behind a point. -/
def afterPoint (t : Text) : Except Flaw Text := do
  afterExponent (← if startsDigit t then afterDecimals t else .ok t)

/-- What follows a number with a mark for its base. -/
def afterMarked (kind : String) (isDigit : Char → Bool) (t : Text) : Except Flaw Text := do
  let flaw := fun (c : Option Char) =>
    match c with
    | some c => if Text.isAsciiDigit c then Flaw.digit c kind else .numeral kind
    | none => .numeral kind
  let rest ← afterDigits isDigit flaw .start t
  if startsDigit rest then throw (flaw rest.head?)
  endNumber kind rest

/-- What follows a number in decimal digits. -/
def afterDecimal (t : Text) : Except Flaw Text := do
  let rest ← afterDecimals t
  match rest with
  | '.' :: rest => afterPoint rest
  | _ =>
    let digits := t.take (t.length - rest.length)
    let marked := (rest.head?.map fun c => "eEjJ".toList.contains c).getD false
    if !marked && digits.head? == some '0' && digits.any fun c => c != '0' && c != '_' then
      throw .leadingZeros
    afterExponent rest

/-- **What follows the number** at the start of a text. -/
def afterNumber (t : Text) : Except Flaw Text :=
  match t with
  | '.' :: rest => afterPoint rest
  | '0' :: c :: rest =>
    let mark := c.toLower
    if mark == 'x' then
      afterMarked "hexadecimal" (fun d => Text.isAsciiDigit d || "abcdefABCDEF".toList.contains d)
        rest
    else if mark == 'o' then
      afterMarked "octal" (fun d => decide ('0' ≤ d) && decide (d ≤ '7')) rest
    else if mark == 'b' then afterMarked "binary" (fun d => d == '0' || d == '1') rest
    else afterDecimal t
  | _ => afterDecimal t

/-! ## 2. Texts -/

/-- What follows a text that a quote ends on its line. -/
def afterText? (quote : Char) : Text → Option Text
  | [] => none
  | '\\' :: _ :: rest => afterText? quote rest
  | c :: rest => if c == quote then some rest else if c == '\n' then none else afterText? quote rest

/-- What follows a text that three quotes end. -/
def afterLongText? (quote : Char) : Text → Option Text
  | [] => none
  | '\\' :: _ :: rest => afterLongText? quote rest
  | c :: rest =>
    if [quote, quote, quote].isPrefixOf (c :: rest) then some (rest.drop 2)
    else afterLongText? quote rest

/-- The line on which a rest of a text with so many line feeds starts. -/
def lineOf (feeds : Nat) (rest : Text) : Nat := 1 + feeds - rest.count '\n'

/-- **What follows the text between quotes** at the start of a text. -/
def afterQuoted (feeds : Nat) (quote : Char) (t : Text) : Except Flaw Text :=
  if [quote, quote, quote].isPrefixOf t then
    (afterLongText? quote (t.drop 3)).elim (.error (.openLongText (1 + feeds))) .ok
  else (afterText? quote (t.drop 1)).elim (.error (.openText (lineOf feeds t))) .ok

/-! ## 3. Tokens -/

/-- The names that stand for values. -/
def constants : List String := ["True", "False", "None"]

/-- The names with a meaning of their own that is no value. -/
def keywords : List String :=
  ["and", "as", "assert", "async", "await", "break", "class", "continue", "def", "del", "elif",
   "else", "except", "finally", "for", "from", "global", "if", "import", "in", "is", "lambda",
   "nonlocal", "not", "or", "pass", "raise", "return", "try", "while", "with", "yield"]

/-- The letters that may stand in front of a quote. -/
def textMarks : List String := ["b", "u", "r", "f", "br", "rb", "fr", "rf"]

/-- The signs of more than one character, longest first. -/
def longSigns : List String :=
  ["**=", "//=", ">>=", "<<=", "...", "!=", "==", "<=", ">=", "<<", ">>", "<>", "**", "//", "->",
   ":=", "+=", "-=", "*=", "/=", "%=", "&=", "|=", "^=", "@="]

/-- The token of a name, whose characters must be those of names. -/
def ofName (t : Text) : Except Flaw Token :=
  match t.find? fun c => !Text.isWordChar c with
  | some c => .error (if Text.isVisible c then .strange c else .hidden c)
  | none =>
    let name := String.ofList t
    .ok (if constants.contains name then .constant
      else if keywords.contains name then .keyword t else .name t)

/-- The token of a sign at the start of a text, and what follows it. -/
def ofSign (t : Text) : Token × Text :=
  let sign := ((longSigns.map String.toList).find? fun s => s.isPrefixOf t).getD (t.take 1)
  (if sign == "...".toList then .constant else .sign sign, t.drop sign.length)

/-- Whether a character is a quote. -/
def isQuote (c : Char) : Bool := c == '"' || c == Text.singleQuote

/-- **The token at the start of a text** that is not blank, and what follows it. -/
def first (feeds : Nat) (c : Char) (rest : Text) : Except Flaw (Token × Text) := do
  let t := c :: rest
  if Text.isAsciiDigit c || (c == '.' && startsDigit rest) then return (.number, ← afterNumber t)
  else if isNameChar c then
    let name := t.takeWhile isNameChar
    let behind := t.dropWhile isNameChar
    match behind with
    | quote :: _ =>
      if isQuote quote && textMarks.contains (String.ofList (name.map Char.toLower)) then
        return (.text, ← afterQuoted feeds quote behind)
      else return (← ofName name, behind)
    | [] => return (← ofName name, [])
  else if isQuote c then return (.text, ← afterQuoted feeds c t)
  else if c == '\\' then return (.backslash, rest)
  else if !Text.isVisible c then throw (.hidden c)
  else return ofSign t

/-- The number of brackets that may be open at a time. -/
def maxOpen : Nat := 200

/-- The bracket that a closing one closes. -/
def opening? (closing : Text) : Option Char :=
  if closing == [')'] then some '(' else if closing == [']'] then some '['
  else if closing == ['\x7d'] then some '\x7b' else none

/-- Whether a sign opens a bracket. -/
def isOpening (sign : Text) : Bool := sign == ['('] || sign == ['['] || sign == ['\x7b']

/-- The open brackets after a token, innermost first. -/
def openAfter (opened : List Char) : Token → Except Flaw (List Char)
  | .sign s =>
    let c := s.headD ' '
    if isOpening s then
      if maxOpen ≤ opened.length then .error .tooDeep else .ok (c :: opened)
    else match opening? s, opened with
      | none, opened => .ok opened
      | some _, [] => .error (.unmatched c)
      | some o, p :: opened => if o = p then .ok opened else .error (.mismatched c p)
  | _ => .ok opened

/-- The tokens of a text, with the brackets that are open at its end; the number bounds how many
    steps it takes. -/
def allFor (feeds : Nat) : Nat → List Char → Text → Except Flaw (List Token × List Char)
  | 0, opened, _ => .ok ([], opened)
  | _ + 1, opened, [] => .ok (if opened.isEmpty then [.ending] else [], opened)
  | steps + 1, opened, c :: rest =>
    if c == ' ' || c == '\t' || c == '\x0c' || (c == '\n' && !opened.isEmpty) then
      allFor feeds steps opened rest
    else if c == '#' then allFor feeds steps opened (rest.dropWhile (· != '\n'))
    else if c == '\n' then do
      let (more, opened) ← allFor feeds steps opened rest
      return (.sign ['\n'] :: more, opened)
    else if c == '\\' && rest.head? == some '\n' then allFor feeds steps opened (rest.drop 1)
    else do
      let (token, rest) ← first feeds c rest
      if token = .backslash then return ([token], opened)
      let (more, opened) ← allFor feeds steps (← openAfter opened token) rest
      return (token :: more, opened)

/-- **The tokens of a text**, with the brackets that are open at its end, innermost first. Every
    token takes a character, so their number bounds the steps. -/
def all (t : Text) : Except Flaw (List Token × List Char) :=
  allFor (t.count '\n') (t.length + 1) [] t

/-- Nothing but the end is read from no text. -/
theorem all_nil : all [] = .ok ([.ending], []) := rfl

end Token

end Worklog.Literal
