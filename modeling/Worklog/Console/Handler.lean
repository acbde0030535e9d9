import Worklog.Fault
import Worklog.Literal.Reading

/-!
# Handlers

A tag whose name starts with `@` attaches a handler to the words in it, as in
`[@open=record(1)]here[/]`. Behind the equals sign stands the name of what is called, with its
arguments in round brackets, or the arguments alone. When the tag is closed the arguments are read
as a literal. `Handler.fault?` gives the fault that reading them ends in.
-/

namespace Worklog.Handler

/-- What is read where a name stands without arguments. -/
def noArguments : Text := "()".toList

/-- The text that is read of what stands behind the equals sign: the round brackets behind a name,
    or all of it if it has another form. -/
def argumentsOf (t : Text) : Text :=
  match t.dropWhile fun c => Text.isWordChar c || c == '.' with
  | [] => noArguments
  | '(' :: rest =>
    if rest.getLast? == some ')' && !rest.contains '\n' then '(' :: rest else t
  | _ => t

/-- **The fault of a handler**, if it has one; without anything behind the equals sign it has
    none. -/
def fault? (handler : Text) : Option Fault :=
  if handler.isEmpty then none
  else
    let arguments := argumentsOf (Text.strip handler)
    (Literal.flaw? arguments).map fun f => .badHandler arguments handler f.message

/-- A name alone calls something without arguments. -/
theorem argumentsOf_name {t : Text} (h : t.all Text.isWordChar = true) :
    argumentsOf t = noArguments := by
  have hd : t.dropWhile (fun c => Text.isWordChar c || c == '.') = [] := by
    induction t with
    | nil => rfl
    | cons c rest ih =>
      simp only [List.all_cons, Bool.and_eq_true] at h
      simp [h.1, ih h.2]
  simp [argumentsOf, hd]

end Worklog.Handler
