import Appliance.Octets

/-!
# Hexadecimal text

Two digits an octet, high half first. Written text is lowercase; reading takes either case and
names the first octet that is no digit, with its place.
-/

namespace Appliance.Hex

/-- The lowercase digit of a value below sixteen. -/
def digit (n : Nat) : Char :=
  if n < 10 then Char.ofNat (48 + n) else Char.ofNat (87 + n)

/-- The uppercase digit of a value below sixteen. -/
def upperDigit (n : Nat) : Char :=
  if n < 10 then Char.ofNat (48 + n) else Char.ofNat (55 + n)

/-- The two lowercase digits of an octet. -/
def ofOctet (x : UInt8) : List Char := [digit (x.toNat / 16), digit (x.toNat % 16)]

/-- The two uppercase digits of an octet. -/
def upperOfOctet (x : UInt8) : List Char := [upperDigit (x.toNat / 16), upperDigit (x.toNat % 16)]

/-- The lowercase digits of a string of octets. -/
def encode (xs : Octets) : String := String.ofList (xs.flatMap ofOctet)

/-- The eight uppercase digits of a number, marked as hexadecimal. -/
def ofUInt32 (n : UInt32) : String :=
  "0x" ++ String.ofList ((Word.ofUInt32 n).toOctets.flatMap upperOfOctet)

/-- The four uppercase digits of a number, marked as hexadecimal. -/
def ofUInt16 (n : UInt16) : String :=
  "0x" ++ String.ofList
    (upperOfOctet (UInt8.ofNat (n.toNat / 256)) ++ upperOfOctet (UInt8.ofNat n.toNat))

/-- The lowercase digits of a number, none of them a leading zero. -/
def ofNat (n : Nat) : String := String.ofList (Nat.toDigits 16 n)

/-- The value of an octet that is a hexadecimal digit of either case. -/
def value? (x : UInt8) : Option UInt8 :=
  if 48 ≤ x ∧ x ≤ 57 then some (x - 48)
  else if 97 ≤ x ∧ x ≤ 102 then some (x - 87)
  else if 65 ≤ x ∧ x ≤ 70 then some (x - 55)
  else none

/-- Why a text is not hexadecimal. -/
inductive Fault where
  /-- The octet at a place is no digit. -/
  | badDigit (digit : UInt8) (place : Nat)
  /-- A digit is left over. -/
  | oddLength
  deriving DecidableEq, Repr

/-- Reads pairs of digits from a place on, behind the octets already read in reverse. -/
def decodeFrom : Nat → Octets → Octets → Except Fault Octets
  | _, done, [] => .ok done.reverse
  | place, _, [x] =>
    match value? x with
    | none => .error (.badDigit x place)
    | some _ => .error .oddLength
  | place, done, x :: y :: rest =>
    match value? x, value? y with
    | none, _ => .error (.badDigit x place)
    | some _, none => .error (.badDigit y (place + 1))
    | some high, some low => decodeFrom (place + 2) ((high * 16 + low) :: done) rest

/-- Reads pairs of digits, and names the first octet that is none. -/
def decode (digits : Octets) : Except Fault Octets := decodeFrom 0 [] digits

end Appliance.Hex
