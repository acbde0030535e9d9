/-!
# Text as a list of characters

Every text the work log handles -- names, titles, queries, terms -- is a list of Unicode
characters. This file fixes what all later modules use:

* the order of texts, by code point (`Text.le`), and the sorted list of distinct texts
  (`Text.sortedSet`);
* containment (`Text.occursIn`), with its meaning `Text.occursIn_iff`;
* joining with a separator (`Text.joinWith`).
-/

namespace Worklog

/-- A text is its list of characters; lengths and positions count characters. -/
abbrev Text := List Char

namespace Text

/-! ## 1. Order -/

/-- Texts are ordered by their code points, character by character; a shorter text comes before
    its continuations. -/
def le : Text → Text → Bool
  | [], _ => true
  | _ :: _, [] => false
  | a :: s, b :: t => decide (a.toNat < b.toNat) || (a == b && le s t)

/-- The strict order that belongs to `le`. -/
def lt (s t : Text) : Bool := le s t && s != t

@[simp] theorem le_refl (t : Text) : le t t = true := by
  induction t with
  | nil => rfl
  | cons c t ih => simp [le, ih]

/-- The distinct members of a list of texts, in order. -/
def sortedSet (ts : List Text) : List Text := ts.eraseDups.mergeSort le

/-! ## 2. Containment -/

/-- Whether `needle` is a contiguous part of a text. -/
def occursIn (needle : Text) : Text → Bool
  | [] => needle.isEmpty
  | c :: rest => needle.isPrefixOf (c :: rest) || occursIn needle rest

/-- **`occursIn` is containment**: some part of the text reads like the needle. -/
theorem occursIn_iff {needle t : Text} : occursIn needle t = true ↔ needle <:+: t := by
  induction t with
  | nil => simp [occursIn]
  | cons c rest ih => simp [occursIn, ih, List.infix_cons_iff]

/-! ## 3. Joining -/

/-- The texts one after the other, with `sep` between two of them. -/
def joinWith (sep : Text) : List Text → Text
  | [] => []
  | [t] => t
  | t :: u :: rest => t ++ sep ++ joinWith sep (u :: rest)

/-- Writes a natural number in decimal digits. -/
def ofNat (n : Nat) : Text := (toString n).toList

/-- Writes an integer in decimal digits, with a minus sign when it is negative. -/
def ofInt (i : Int) : Text :=
  if i < 0 then '-' :: ofNat i.natAbs else ofNat i.natAbs

/-- A text filled up on the left to a width. -/
def padLeft (width : Nat) (fill : Char) (t : Text) : Text :=
  List.replicate (width - t.length) fill ++ t

/-- A number in decimal digits, with zeros in front up to a width. -/
def ofNatPadded (width n : Nat) : Text := padLeft width '0' (ofNat n)

end Text

end Worklog
