import Appliance.Cipher.Cbc
import Appliance.Digest.Md5
import Appliance.Hex
import Appliance.Text.Blank
import Appliance.Text.Quoted
import Appliance.Text.Utf8

/-!
# The shared secret of a device

A token is a block of sixteen octets that the device and its clients share. The key of the body
cipher is the digest of the token, and its initial vector the digest of key and token.

As text a token is thirty-two hexadecimal digits of either case, with blanks around it ignored.
-/

namespace Appliance

/-- The secret that a device shares with its clients. -/
structure Token where
  secret : Block
  deriving DecidableEq, Repr, Inhabited

namespace Token

/-- The token of sixteen zeros. -/
def zero : Token := ⟨Block.fill 0⟩

/-- The octets of a token. -/
def toOctets (t : Token) : Octets := t.secret.toOctets

/-- The token as lowercase hexadecimal digits. -/
def toHex (t : Token) : String := Hex.encode t.toOctets

/-- The text that stands for a token where its secret must not be shown. -/
def masked : String := "Token(***)"

/-- Why a text is no token. -/
inductive Fault where
  /-- The text between the blanks has a wrong number of octets. -/
  | length (octets : Nat)
  /-- The octet at a place is no hexadecimal digit. -/
  | badDigit (octet : UInt8) (place : Nat)
  /-- A reason in words. -/
  | other (words : String)
  deriving DecidableEq, Repr

/-- The wording of a fault. An octet is shown as the character of its number. -/
def Fault.text : Fault → String
  | .length octets => "expected 32 hex characters, got " ++ toString octets
  | .badDigit octet place =>
    "Invalid character " ++ Quoted.ofChar (Char.ofNat octet.toNat) ++ " at position " ++ toString place
  | .other words => words

/-- The token that a text spells. -/
def ofHex (s : String) : Except Fault Token :=
  let digits := Utf8.encode (trimBlanks s.toList)
  if digits.length ≠ 32 then .error (.length digits.length)
  else
    match Hex.decode digits with
    | .error (.badDigit octet place) => .error (.badDigit octet place)
    | .error .oddLength => .error (.length digits.length)
    | .ok octets =>
      match Block.ofOctets? octets with
      | some secret => .ok ⟨secret⟩
      | none => .error (.length digits.length)

/-- The key of the body cipher. -/
def key (t : Token) : Block := Md5.digest t.toOctets

/-- The initial vector of the body cipher. -/
def iv (t : Token) : Block := Md5.digest (t.key.toOctets ++ t.toOctets)

/-- A plain text enciphered under a token. -/
def encrypt (t : Token) (plain : Octets) : Octets := Cbc.encrypt t.key t.iv plain

/-- The plain text of a cipher text under a token, if it is one. -/
def decrypt? (t : Token) (cipher : Octets) : Option Octets := Cbc.decrypt? t.key t.iv cipher

end Token

end Appliance
