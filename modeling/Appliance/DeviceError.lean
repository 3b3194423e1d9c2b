import Appliance.Conversion
import Appliance.Response
import Appliance.TransportError

/-!
# Errors of a call

How a call to a device can fail: at the protocol, at the transport, at the conversion of its
result, for want of an answer, or by the device's own refusal. The wording is in
`DeviceError.message` alone.
-/

namespace Appliance

/-- Why what a device tells about itself cannot be had. -/
inductive InfoFault where
  /-- The reply cannot be read. -/
  | undecodable (error : ProtocolError)
  /-- The result is something else. -/
  | unfit (error : ConversionError)
  /-- A reason in words. -/
  | other (words : String)
  deriving DecidableEq, Repr

/-- The wording of a fault. -/
def InfoFault.text : InfoFault → String
  | .undecodable error => "unable to decode miIO.info reply: " ++ error.message
  | .unfit error => error.message
  | .other words => words

/-- Why an authentic reply is of no use. -/
inductive ResponseFault where
  /-- A request was answered by a handshake. -/
  | handshake (method : String)
  /-- A query for a list was answered by another value. -/
  | notList (getter : String) (value : Json)
  /-- A reason in words. -/
  | other (words : String)
  deriving DecidableEq

/-- The wording of a fault. -/
def ResponseFault.text : ResponseFault → String
  | .handshake method => "handshake reply to " ++ method
  | .notList getter value => getter ++ " returned a non-list value: " ++ value.text
  | .other words => words

/-- The error of a call to a device. -/
inductive DeviceError where
  | protocol (error : ProtocolError)
  | transport (error : TransportError)
  | conversion (error : ConversionError)
  /-- No handshake got an answer. -/
  | unreachable (address : String) (attempts : Nat)
  /-- No request got an answer, the last one for a reason of the transport. -/
  | noResponse (attempts : Nat) (source : TransportError)
  /-- The reply was made with another token. -/
  | invalidToken (address : String)
  /-- The device refuses the request. -/
  | device (code : Int64) (message : String)
  | infoUnavailable (fault : InfoFault)
  | invalidResponse (fault : ResponseFault)
  deriving DecidableEq

namespace DeviceError

/-- The wording of an error. -/
def message : DeviceError → String
  | .protocol error => "Core protocol error: " ++ error.message
  | .transport error => "Transport error: " ++ error.message
  | .conversion error => "Type error: " ++ error.message
  | .unreachable address attempts =>
    "Device " ++ address ++ " unreachable after " ++ toString attempts ++ " handshake attempts"
  | .noResponse attempts source =>
    "No response from device after " ++ toString attempts ++ " attempts: " ++ source.message
  | .invalidToken address => "Invalid token for device " ++ address ++ ": reply checksum mismatch"
  | .device code message => "Device returned error " ++ toString code ++ ": " ++ message
  | .infoUnavailable fault => "Device info unavailable: " ++ fault.text
  | .invalidResponse fault => "Invalid response from device: " ++ fault.text

/-- The device could not be reached at all. -/
def isUnreachable : DeviceError → Bool
  | .unreachable _ _ | .noResponse _ _ => true
  | _ => false

/-- A later call might succeed. -/
def isRecoverable : DeviceError → Bool
  | .transport _ | .noResponse _ _ | .unreachable _ _ => true
  | .device code _ => isRecoverableCode code
  | _ => false

/-- The wordings of what lies behind an error, the nearest first. -/
def causes : DeviceError → List String
  | .protocol error => error.message :: error.causes
  | .transport error => error.message :: error.causes
  | .conversion error => [error.message]
  | .noResponse _ source => source.message :: source.causes
  | _ => []

end DeviceError

end Appliance
