import Appliance.ProtocolError
import Appliance.Sequence

/-!
# Sessions

What a client knows about one device: the token, the device's id once a handshake has told it, the
device's clock as it was last seen, and the counter of request ids. A handshake sets id and clock, a
reply moves the clock and may move the counter, and a client that loses touch drops id and clock but
keeps counting.
-/

namespace Appliance

/-- What a client knows about one device. -/
structure Session where
  token : Token
  /-- The device's id, from a handshake on. -/
  deviceId? : Option UInt32
  lastTimestamp : UInt32
  sequence : SequenceId
  deriving DecidableEq, Repr

namespace Session

/-- A session before any handshake. -/
def new (token : Token) : Session := ⟨token, none, 0, .start⟩

/-- A handshake has told the device's id. -/
def isReady (s : Session) : Bool := s.deviceId?.isSome

/-- The device's id, or an error before any handshake. -/
def deviceId (s : Session) : Except ProtocolError UInt32 :=
  match s.deviceId? with
  | some id => .ok id
  | none => .error .sessionNotInitialized

/-- The session after a handshake. -/
def establish (s : Session) (deviceId timestamp : UInt32) : Session :=
  { s with deviceId? := some deviceId, lastTimestamp := timestamp }

/-- The session without the device's id and clock. -/
def invalidate (s : Session) : Session := { s with deviceId? := none, lastTimestamp := 0 }

/-- The clock for the next frame: one more than the device's, round again after the greatest. -/
def nextTimestamp (s : Session) : UInt32 := s.lastTimestamp + 1

/-- The session after the next request id is handed out, which is then its current one. -/
def nextId (s : Session) : Session := { s with sequence := s.sequence.next }

/-- The session with its counter moved ahead. -/
def skipIds (s : Session) (stride : UInt32) : Session :=
  { s with sequence := s.sequence.skip stride }

/-- The request id last handed out. -/
def currentId (s : Session) : UInt32 := s.sequence.current

/-- The session after a reply with the device's clock and, it may be, a request id. -/
def observeReply (s : Session) (timestamp : UInt32) (id : Option UInt32) : Session :=
  let s := { s with lastTimestamp := timestamp }
  match id with
  | some id => { s with sequence := s.sequence.observe id }
  | none => s

end Session

end Appliance
