import Worklog.Command.Misuse
import Worklog.Text.Similar

/-!
# Options

A command line is a list of words. A word that starts with a dash gives an option: by its long
name, with a value behind an equals sign or in the next word, or by short names of one letter each,
of which the last may have its value behind it. Two dashes alone end the options. All other words
are arguments.

`Options.read` sorts the words of a command line into options and arguments, or says what is wrong
with them.
-/

namespace Worklog

/-- What an option takes. -/
inductive OptionValue where
  | nothing
  | text
  | file
  | whole
  deriving DecidableEq, Repr

/-- An option of a command. -/
structure OptionRule where
  /-- The name with two dashes. -/
  long : String
  /-- The letter of the name with one dash. -/
  short : Option Char
  takes : OptionValue
  /-- What the option is for. -/
  purpose : String
  deriving DecidableEq, Repr

/-- An option as it is given; one that takes nothing has no text. -/
structure GivenOption where
  rule : OptionRule
  value : Text
  deriving DecidableEq, Repr

namespace OptionRule

/-- The names of an option, the long one first. -/
def names (r : OptionRule) : List Text := r.long.toList :: r.short.toList.map fun c => ['-', c]

/-- The names of an option as complaints give them. -/
def hint (r : OptionRule) : Text := Text.joinWith " / ".toList (r.names.map Text.quoted)

end OptionRule

namespace Options

variable (rules : List OptionRule)

/-- Whether a word gives options. -/
def looksGiven : Text → Bool
  | '-' :: _ :: _ => true
  | _ => false

/-- The options of a word of short names, and the last of them if its value is the next word. -/
def shortNames : Text → Except Misuse (List GivenOption × Option (OptionRule × Text))
  | [] => .ok ([], none)
  | c :: rest =>
    match rules.find? fun r => r.short == some c with
    | none => .error (.unknownOption ['-', c] [])
    | some r =>
      if r.takes = .nothing then do
        let (given, open?) ← shortNames rest
        return (⟨r, []⟩ :: given, open?)
      else if rest.isEmpty then .ok ([], some (r, ['-', c]))
      else .ok ([⟨r, rest⟩], none)

/-- The options of a word, and the last of them if its value is the next word. -/
def word (t : Text) : Except Misuse (List GivenOption × Option (OptionRule × Text)) :=
  let name := t.takeWhile (· != '=')
  let value? := (t.drop name.length).tail?
  match rules.find? fun r => r.long.toList == name, value? with
  | some r, some value =>
    if r.takes = .nothing then .error (.unwantedValue name) else .ok ([⟨r, value⟩], none)
  | some r, none =>
    if r.takes = .nothing then .ok ([⟨r, []⟩], none) else .ok ([], some (r, name))
  | none, _ =>
    if t.take 2 == ['-', '-'] then
      .error (.unknownOption name (Text.closest name (rules.map (·.long.toList))))
    else shortNames rules (t.drop 1)

/-- Sorts words into options and arguments, where an option may still be without its value. -/
def readFrom (mixed : Bool) :
    Option (OptionRule × Text) → List Text → Except Misuse (List GivenOption × List Text)
  | some (_, name), [] => .error (.missingValue name)
  | some (r, _), value :: rest => do
    let (more, arguments) ← readFrom mixed none rest
    return (⟨r, value⟩ :: more, arguments)
  | none, [] => .ok ([], [])
  | none, t :: rest =>
    if t == ['-', '-'] then .ok ([], rest)
    else if looksGiven t then do
      let (given, open?) ← word rules t
      let (more, arguments) ← readFrom mixed open? rest
      return (given ++ more, arguments)
    else if mixed then do
      let (given, arguments) ← readFrom mixed none rest
      return (given, t :: arguments)
    else .ok ([], t :: rest)

/-- **Sorts words into options and arguments.** Unless options and arguments may be `mixed`, the
    first argument ends the options. -/
def read (mixed : Bool) (words : List Text) : Except Misuse (List GivenOption × List Text) :=
  readFrom rules mixed none words

/-- Words without options are arguments. -/
theorem read_of_not_looksGiven {words : List Text}
    (h : ∀ t ∈ words, looksGiven t = false) : read rules true words = .ok ([], words) := by
  unfold read
  induction words with
  | nil => rfl
  | cons t rest ih =>
    have ht : looksGiven t = false := h t (by simp)
    have hd : (t == ['-', '-']) = false := by
      cases hc : t == ['-', '-'] with
      | false => rfl
      | true =>
        rw [beq_iff_eq.mp hc] at ht
        exact absurd ht (by decide)
    simp only [readFrom, hd, ht, ih fun u hu => h u (by simp [hu])]
    rfl

/-! ## What was given -/

/-- The values of an option, in the order in which they are given. -/
def values (long : String) (given : List GivenOption) : List Text :=
  (given.filter fun g => g.rule.long == long).map (·.value)

/-- The value of an option; of several the last counts. -/
def value? (long : String) (given : List GivenOption) : Option Text := (values long given).getLast?

/-- Whether an option is given. -/
def has (long : String) (given : List GivenOption) : Bool :=
  given.any fun g => g.rule.long == long

/-- The options that are given, each once and with the value that counts, in the order in which
    they are first given. -/
def distinct (given : List GivenOption) : List GivenOption :=
  (given.map (·.rule)).eraseDups.map fun r => ⟨r, (value? r.long given).getD []⟩

end Options

end Worklog
