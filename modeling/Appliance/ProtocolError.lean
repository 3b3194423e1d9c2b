import Appliance.Json.Fault
import Appliance.Token

/-!
# Errors of the protocol

What can be wrong with a frame, with its contents or with what a frame is made of. The wording is
in `ProtocolError.message` alone.
-/

namespace Appliance

/-- An error of the protocol. -/
inductive ProtocolError where
  /-- A frame is shorter than its header. -/
  | frameTooShort (expected actual : Nat)
  /-- A frame starts with other octets than the magic ones. -/
  | invalidMagic (magic : UInt16)
  /-- A frame declares another length than it has. -/
  | lengthMismatch (declared actual : Nat)
  /-- A frame carries another checksum than its contents give. -/
  | checksumMismatch (expected received : String)
  /-- A body is no cipher text under the token. -/
  | decrypt
  /-- A body is no JSON text, or a payload has none, or is not what it should be. -/
  | payload (error : Json.Error)
  /-- A frame would be longer than its length field can say. -/
  | payloadTooLarge (size max : Nat)
  /-- A text is no token. -/
  | invalidToken (fault : Token.Fault)
  /-- A session has no handshake to build on. -/
  | sessionNotInitialized
  deriving DecidableEq, Repr

namespace ProtocolError

/-- The wording of an error. -/
def message : ProtocolError → String
  | .frameTooShort expected actual =>
    "Frame too short: expected at least " ++ toString expected ++ " bytes, got " ++ toString actual ++
      " bytes"
  | .invalidMagic magic => "Invalid magic: expected 0x2131, got " ++ Hex.ofUInt16 magic
  | .lengthMismatch declared actual =>
    "Frame length mismatch: header says " ++ toString declared ++ " bytes, got " ++ toString actual ++
      " bytes"
  | .checksumMismatch expected received =>
    "Checksum mismatch: expected " ++ expected ++ ", received " ++ received
  | .decrypt => "Failed to decrypt frame body"
  | .payload error => "Invalid payload: " ++ error.message
  | .payloadTooLarge size max =>
    "Payload too large: " ++ toString size ++ " bytes (max: " ++ toString max ++ " bytes)"
  | .invalidToken fault => "Invalid token: " ++ fault.text
  | .sessionNotInitialized => "Session not initialized - handshake with device first"

/-- A frame failed authentication. -/
def isIntegrityFailure : ProtocolError → Bool
  | .checksumMismatch _ _ => true
  | _ => false

/-- A frame is malformed, though it may be authentic. -/
def isMalformed : ProtocolError → Bool
  | .frameTooShort _ _ | .invalidMagic _ | .lengthMismatch _ _ | .decrypt | .payload _ => true
  | _ => false

/-- The wordings of what lies behind an error, the nearest first. -/
def causes : ProtocolError → List String
  | .payload error => [error.message]
  | _ => []

end ProtocolError

end Appliance
