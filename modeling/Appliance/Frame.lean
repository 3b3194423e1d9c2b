import Appliance.Frame.Body
import Appliance.Frame.Header

/-!
# Frames

A frame is a header and, unless it is a handshake, a body enciphered under the token. The checksum
is the digest of the header's fields, the token and the enciphered body, so that it holds only under
the token that the frame was made with. What carries a payload is whatever has a JSON text.

Reading a frame checks its header, then the checksum, then the cipher, then the text; the first
check that fails gives the error. A handshake is read under any token.
-/

namespace Appliance

/-- The checksum of the fields of a header and an enciphered body. -/
def checksum (fields : Block) (token : Token) (cipher : Octets) : Block :=
  Md5.digest (fields.toOctets ++ token.toOctets ++ cipher)

/-- What can be the payload of a frame: it has a JSON value to be written, or a reason why not. -/
class Payload (α : Type) where
  json : α → Except Json.Error Json

instance : Payload Json := ⟨.ok⟩

/-- The text of a key of a mapping: scalars other than null stand for their text. -/
def Json.keyText? : Json → Option String
  | .string s => some s
  | .bool b => some (if b then "true" else "false")
  | .number n => some n.text
  | .null | .array _ | .object _ => none

/-- A mapping with keys of any kind is written as an object in the order of the mapping, if every
key has a text. -/
instance : Payload (List (Json × Json)) :=
  ⟨fun pairs => do
    let members ← pairs.mapM fun (k, v) =>
      match k.keyText? with
      | some key => Except.ok (key, v)
      | none => Except.error (Json.Error.ofFault .keyNotString)
    return .object members⟩

/-- A frame with its body deciphered and read, if it has one. -/
structure Frame where
  header : Header
  body : Option Json
  deriving DecidableEq

namespace Frame

/-- The greatest length that a header can declare. -/
def maxSize : Nat := 65535

/-- The octet that fills a handshake after its length. -/
def handshakeFill : UInt8 := 0xff

/-- The handshake that a client sends. -/
def handshake : Octets :=
  (Word.ofHalves Header.magic (UInt16.ofNat Header.size)).toOctets ++
    List.replicate (Header.size - 4) handshakeFill

/-- The header of a body enciphered under a token; the length is what sixteen bits of it say. -/
def headerOf (unknown deviceId timestamp : UInt32) (token : Token) (cipher : Octets) : Header :=
  let blank : Header :=
    ⟨UInt16.ofNat (Header.size + cipher.length), unknown, deviceId, timestamp, Block.fill 0⟩
  { blank with checksum := checksum blank.fields token cipher }

/-- The octets of a frame around an enciphered body. -/
def wrap (unknown deviceId timestamp : UInt32) (token : Token) (cipher : Octets) : Octets :=
  (headerOf unknown deviceId timestamp token cipher).toOctets ++ cipher

/-- The octets of the frame that carries a payload. -/
def encode {α : Type} [Payload α] (payload : α) (deviceId timestamp : UInt32) (token : Token) :
    Except ProtocolError Octets :=
  match Payload.json payload with
  | .error e => .error (.payload e)
  | .ok json =>
    let cipher := token.encrypt json.octets
    if Header.size + cipher.length > maxSize then
      .error (.payloadTooLarge (Header.size + cipher.length) maxSize)
    else .ok (wrap 0 deviceId timestamp token cipher)

/-- The frame that some octets are under a token. -/
def decode (octets : Octets) (token : Token) : Except ProtocolError Frame :=
  match Header.parse octets with
  | .error e => .error e
  | .ok header =>
    if header.isHandshake then .ok ⟨header, none⟩
    else
      let cipher := octets.drop Header.size
      let expected := checksum header.fields token cipher
      if expected ≠ header.checksum then
        .error (.checksumMismatch (Hex.encode expected.toOctets)
          (Hex.encode header.checksum.toOctets))
      else
        match token.decrypt? cipher with
        | none => .error .decrypt
        | some plain =>
          match Body.parse plain with
          | .error e => .error (.payload e)
          | .ok v => .ok ⟨header, some v⟩

/-- The frame is a handshake. -/
def isHandshake (f : Frame) : Bool := f.header.isHandshake

/-- A frame on one line. -/
def text (f : Frame) : String :=
  "Frame(device_id=" ++ Hex.ofUInt32 f.header.deviceId ++ ", ts=" ++ toString f.header.timestamp ++
    ", len=" ++ toString f.header.length ++ ")"

end Frame

end Appliance
