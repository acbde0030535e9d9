import Worklog.Text.Basic

/-!
# Bytes written in base 64

Each character of the alphabet stands for six bits, and four of them for three bytes. Characters
outside of the alphabet do not matter; padding ends the text where it completes a group of four.

* `Base64.decode?` gives the bytes of a text, unless its last group is incomplete;
* `Base64.utf8?` gives the text of some bytes.
-/

namespace Worklog.Base64

/-- The six bits that a character stands for. -/
def sextet? (c : Char) : Option Nat :=
  let n := c.toNat
  if 65 ≤ n && n ≤ 90 then some (n - 65)
  else if 97 ≤ n && n ≤ 122 then some (n - 71)
  else if 48 ≤ n && n ≤ 57 then some (n + 4)
  else if c == '+' then some 62
  else if c == '/' then some 63
  else none

/-- The bytes of a text that goes on a group of four: `place` characters of the group came before,
    `held` are the bits of the last one that belong to no byte yet, and `pads` is the number of
    paddings since. -/
def decodeFrom (place held pads : Nat) : Text → Option (List UInt8)
  | [] => if place = 0 then some [] else none
  | c :: rest =>
    if c == '=' then
      if 2 ≤ place ∧ 4 ≤ place + pads + 1 then some []
      else decodeFrom place held (if 2 ≤ place then pads + 1 else pads) rest
    else match sextet? c with
      | none => decodeFrom place held pads rest
      | some s =>
        match place with
        | 0 => decodeFrom 1 s 0 rest
        | 1 => (decodeFrom 2 (s % 16) 0 rest).map (UInt8.ofNat (held * 4 + s / 16) :: ·)
        | 2 => (decodeFrom 3 (s % 4) 0 rest).map (UInt8.ofNat (held * 16 + s / 4) :: ·)
        | _ => (decodeFrom 0 0 0 rest).map (UInt8.ofNat (held * 64 + s) :: ·)

/-- **The bytes of a text.** -/
def decode? (t : Text) : Option (List UInt8) := decodeFrom 0 0 0 t

/-- The text of some bytes, if they are UTF-8. -/
def utf8? (bytes : List UInt8) : Option Text :=
  (String.fromUTF8? ⟨bytes.toArray⟩).map String.toList

end Worklog.Base64
