import Appliance.Octets

/-!
# UTF-8

Characters as octets and back. Reading refuses overlong forms, surrogates and code points above
the last one, and names the place where the first refused sequence starts.
-/

namespace Appliance.Utf8

/-- The octets of a list of characters. -/
def encode (cs : List Char) : Octets := cs.flatMap String.utf8EncodeChar

/-- The octets of a text. -/
def ofString (s : String) : Octets := encode s.toList

/-- An octet that continues a sequence. -/
def isTail (x : UInt8) : Bool := 0x80 ≤ x && x ≤ 0xbf

/-- An octet that may be the second one after a given first octet of a longer sequence. -/
def isSecond (first second : UInt8) : Bool :=
  if first = 0xe0 then 0xa0 ≤ second && second ≤ 0xbf
  else if first = 0xed then 0x80 ≤ second && second ≤ 0x9f
  else if first = 0xf0 then 0x90 ≤ second && second ≤ 0xbf
  else if first = 0xf4 then 0x80 ≤ second && second ≤ 0x8f
  else isTail second

/-- The character at the front of a list of octets, and what follows it. -/
def next? : Octets → Option (Char × Octets)
  | [] => none
  | a :: rest =>
    if a < 0x80 then some (Char.ofNat a.toNat, rest)
    else if a < 0xc2 then none
    else if a < 0xe0 then
      match rest with
      | b :: rest =>
        if isTail b then some (Char.ofNat ((a.toNat - 0xc0) * 64 + (b.toNat - 0x80)), rest)
        else none
      | _ => none
    else if a < 0xf0 then
      match rest with
      | b :: c :: rest =>
        if isSecond a b && isTail c then
          some (Char.ofNat (((a.toNat - 0xe0) * 64 + (b.toNat - 0x80)) * 64 + (c.toNat - 0x80)),
            rest)
        else none
      | _ => none
    else if a < 0xf5 then
      match rest with
      | b :: c :: d :: rest =>
        if isSecond a b && isTail c && isTail d then
          some (Char.ofNat ((((a.toNat - 0xf0) * 64 + (b.toNat - 0x80)) * 64 + (c.toNat - 0x80)) * 64
            + (d.toNat - 0x80)), rest)
        else none
      | _ => none
    else none

/-- Reads characters behind those already read in reverse. The first argument bounds their number,
the second counts the octets already read. -/
def decodeFrom : Nat → Nat → List Char → Octets → Except Nat (List Char)
  | _, _, done, [] => .ok done.reverse
  | 0, place, _, _ => .error place
  | n + 1, place, done, xs =>
    match next? xs with
    | none => .error place
    | some (c, rest) => decodeFrom n (place + c.utf8Size) (c :: done) rest

/-- The characters of a list of octets, or the place where the first sequence that is not UTF-8
starts. -/
def decode (xs : Octets) : Except Nat (List Char) := decodeFrom xs.length 0 [] xs

end Appliance.Utf8
