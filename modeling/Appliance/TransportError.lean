/-!
# Errors of a transport

What can go wrong between a client and the network.
-/

namespace Appliance

/-- An error of a transport. -/
inductive TransportError where
  | notConnected
  | alreadyConnected
  | readTimeout
  | emptyDatagram
  /-- The host refuses an operation, for a reason in words. -/
  | io (reason : String)
  /-- An address cannot be resolved, for a reason in words. -/
  | invalidAddress (reason : String)
  deriving DecidableEq, Repr

namespace TransportError

/-- The wording of an error. -/
def message : TransportError → String
  | .notConnected => "Not connected"
  | .alreadyConnected => "Already connected"
  | .readTimeout => "Read timeout"
  | .emptyDatagram => "Received an empty datagram"
  | .io reason => "I/O error: " ++ reason
  | .invalidAddress reason => "Invalid address: " ++ reason

/-- No datagram came in time. -/
def isTimeout (e : TransportError) : Bool := e == .readTimeout

/-- The wordings of what lies behind an error, the nearest first. -/
def causes : TransportError → List String
  | .io reason => [reason]
  | _ => []

end TransportError

end Appliance
