import Worklog.Query.Basic
import Worklog.Term

/-!
# Normal form and search terms of queries

* `Query.normalize` writes a query in normal form: lower case, one space between tokens, and no
  tokens of one character but the three that carry syntax;
* `Query.textTerms` and `Query.excludedTerms` are the texts that a query's record has to contain
  and must not contain.
-/

namespace Worklog.Query

open Worklog.Text

/-- Whether a token stays in the normal form. -/
def keeps (token : Text) : Bool :=
  decide (2 ≤ token.length) || token.contains ':' ||
    token.head? == some '-' || token.head? == some '"'

/-- The lower case of a query with one space for each run of blanks. -/
def collapse (q : Text) : Text := joinWith [' '] (words (lower q))

/-- **The normal form of a query.** -/
def normalize (q : Text) : Text := joinWith [' '] ((tokens (collapse q)).filter keeps)

/-- Whether a lower-cased text is looked for: a single word has to be a content word. -/
def isSought (t : Text) : Bool := t.contains ' ' || Term.isContent t

/-- The texts that a record has to contain. -/
def textTerms (q : Query) : List Text := (q.texts.map lower).filter isSought

/-- The texts that a record must not contain. -/
def excludedTerms (q : Query) : List Text :=
  (q.excluded.map fun t => lower (unquote t)).filter (!·.isEmpty)

end Worklog.Query
