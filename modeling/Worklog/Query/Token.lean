import Worklog.Text.Blank

/-!
# The tokens of a query

A query is cut into tokens at its blanks, except that blanks between double quotes belong to the
token in which they stand. A quote that is never closed reaches to the end of the query.

* `Query.tokens` cuts a query;
* `Query.unquote` takes the quotes off a token.
-/

namespace Worklog.Query

open Worklog.Text

/-- The token that a text continues and the tokens that follow it, where `inQuotes` says whether
    the text starts between quotes. -/
def scan : Bool → Text → Text × List Text
  | _, [] => ([], [])
  | inQuotes, c :: rest =>
    if c == '"' then
      let (token, more) := scan (!inQuotes) rest
      (c :: token, more)
    else if isBlank c && !inQuotes then
      let (token, more) := scan inQuotes rest
      ([], pushRun token more)
    else
      let (token, more) := scan inQuotes rest
      (c :: token, more)

/-- **The tokens of a query**, in order. -/
def tokens (q : Text) : List Text :=
  let (token, more) := scan false q
  pushRun token more

@[simp] theorem tokens_nil : tokens [] = [] := rfl

/-- A token without its quotes: a pair around it goes, and so does a quote that only opens it. -/
def unquote (t : Text) : Text :=
  match t with
  | '"' :: rest => if rest.getLast? == some '"' then rest.dropLast else rest
  | _ => t

/-- The number of quotes in a text. -/
def quoteCount (t : Text) : Nat := t.count '"'

/-- Text in quotes that holds none itself is what the quotes are taken off to. -/
theorem unquote_quoted (t : Text) : unquote ('"' :: t ++ ['"']) = t := by
  simp [unquote]

end Worklog.Query
