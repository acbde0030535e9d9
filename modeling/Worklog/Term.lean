import Worklog.Text.Lowercase

/-!
# Search terms

Records are filed under terms, and a query is looked up term by term. A text gives its *content
words*: the words of its lower case that have at least two characters and are not among the stop
words. Each content word is a term, and a longer one is followed by its leads -- its first three
characters, its first four, up to its first eight -- so that the start of a word finds the word.

* `Term.contentWords`, the words that count;
* `Term.expand`, a word with its leads;
* `Term.ofText`, the terms of a text in the order in which they are emitted, repetitions kept.
-/

namespace Worklog.Term

/-- Words that are never terms. -/
def stopWords : List Text :=
  ["the", "and", "or", "but", "in", "on", "at", "to", "for", "of", "with", "by",
   "from", "up", "about", "into", "through", "during", "before", "after", "above",
   "below", "between", "among", "under", "over", "is", "are", "was", "were", "be",
   "been", "being", "have", "has", "had", "do", "does", "did", "will", "would",
   "could", "should", "may", "might", "must", "can", "this", "that", "these",
   "those", "a", "an", "as", "if", "each", "how", "which", "who", "when", "where",
   "why", "what"].map String.toList

/-- Whether a word is a stop word. -/
def isStopWord (w : Text) : Bool := stopWords.contains w

/-- The least length of a term. -/
def minLength : Nat := 2

/-- The least length of a lead. -/
def minLead : Nat := 3

/-- The greatest length of a lead. -/
def maxLead : Nat := 8

/-- Whether a lower-cased word counts as content. -/
def isContent (w : Text) : Bool := decide (minLength ≤ w.length) && !isStopWord w

/-- **The content words of a text**, in order. -/
def contentWords (t : Text) : List Text := (Text.words (Text.lower t)).filter isContent

/-- The leads of a word: its beginnings of length three up to eight. A word of three characters
    or fewer has none. -/
def leads (w : Text) : List Text :=
  if minLead < w.length then
    (List.range' minLead (min w.length maxLead + 1 - minLead)).map w.take
  else []

/-- A content word followed by its leads. -/
def expand (w : Text) : List Text := w :: leads w

/-- **The terms of a text.** -/
def ofText (t : Text) : List Text := (contentWords t).flatMap expand

@[simp] theorem ofText_nil : ofText [] = [] := rfl

/-- A lead is a beginning of its word. -/
theorem prefix_of_mem_leads {l w : Text} (h : l ∈ leads w) : l <+: w := by
  unfold leads at h
  split at h
  · obtain ⟨n, -, rfl⟩ := List.mem_map.1 h
    exact List.take_prefix n w
  · simp at h

end Worklog.Term
