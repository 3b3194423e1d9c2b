import Appliance.Octets

/-!
# Padding to whole blocks

The padding of PKCS #7: one to sixteen octets, each of them the number of octets added, so that a
text of whole blocks gains one more block. Taking it off is strict: every octet of it is checked.
-/

namespace Appliance.Padding

/-- How many octets are added to a text of a given length. -/
def count (length : Nat) : Nat := 16 - length % 16

/-- A text with its padding. -/
def add (text : Octets) : Octets :=
  text ++ List.replicate (count text.length) (UInt8.ofNat (count text.length))

/-- The text without its padding, if its last octets are a padding. -/
def strip? (padded : Octets) : Option Octets :=
  match padded.reverse with
  | [] => none
  | last :: _ =>
    let n := last.toNat
    if 1 ≤ n ∧ n ≤ 16 ∧ n ≤ padded.length ∧
        padded.drop (padded.length - n) = List.replicate n last then
      some (padded.take (padded.length - n))
    else none

end Appliance.Padding
