import Appliance.ProtocolError

/-!
# Frame headers

A header is two blocks. The first holds its fields: two magic octets, the length of the whole
frame, a reserved word, the device's id and the device's clock. The second is the checksum, which
in the reply to a handshake is a fingerprint of the token or the token itself. Numbers are most
significant octet first.

A header alone is enough to tell a handshake, which is a frame without a body.
-/

namespace Appliance

/-- The header of a frame, without its magic octets. -/
structure Header where
  length : UInt16
  unknown : UInt32
  deviceId : UInt32
  timestamp : UInt32
  checksum : Block
  deriving DecidableEq, Repr

namespace Header

/-- The number that the first two octets of every frame spell. -/
def magic : UInt16 := 0x2131

/-- The number of octets in a header. -/
def size : Nat := 32

/-- The first half of a header. -/
def fields (h : Header) : Block :=
  ⟨Word.ofHalves magic h.length, Word.ofUInt32 h.unknown, Word.ofUInt32 h.deviceId,
    Word.ofUInt32 h.timestamp⟩

/-- The octets of a header. -/
def toOctets (h : Header) : Octets := h.fields.toOctets ++ h.checksum.toOctets

/-- The header of a frame. Refused are, in this order, what is shorter than a header, what does not
start with the magic octets, and what does not have the length it declares. -/
def parse (frame : Octets) : Except ProtocolError Header :=
  match Block.take? frame with
  | none => .error (.frameTooShort size frame.length)
  | some (fields, rest) =>
    match Block.take? rest with
    | none => .error (.frameTooShort size frame.length)
    | some (checksum, _) =>
      if fields.w0.upper ≠ magic then .error (.invalidMagic fields.w0.upper)
      else if fields.w0.lower.toNat ≠ frame.length then
        .error (.lengthMismatch fields.w0.lower.toNat frame.length)
      else
        .ok ⟨fields.w0.lower, fields.w1.toUInt32, fields.w2.toUInt32, fields.w3.toUInt32, checksum⟩

/-- The header belongs to a frame without a body. -/
def isHandshake (h : Header) : Bool := h.length.toNat == size

/-- The number of octets that the header declares to follow it. -/
def bodyLength (h : Header) : Nat := h.length.toNat - size

/-- A header on one line. -/
def text (h : Header) : String :=
  "Header \x7b length: " ++ toString h.length ++ ", unknown: " ++ toString h.unknown ++
    ", device_id: \"" ++ Hex.ofUInt32 h.deviceId ++ "\", timestamp: " ++ toString h.timestamp ++
    ", checksum: \"" ++ Hex.encode h.checksum.toOctets ++ "\" \x7d"

end Header

end Appliance
