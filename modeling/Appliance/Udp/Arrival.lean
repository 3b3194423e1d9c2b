import Appliance.Config
import Appliance.Octets
import Appliance.TransportError

/-!
# What arrives at a socket

Waiting at a socket ends with a datagram, with silence when the time is up, or with a refusal of the
host. A datagram is stored as far as it fits the buffer; the rest of it is lost. One without octets
is an error, as it can hold no frame.
-/

namespace Appliance

/-- The number of octets of a datagram that are stored. -/
def receiveBufferSize : Nat := 4096

/-- How waiting at a socket ends, where a datagram comes with something about its origin. -/
inductive Arrival (α : Type) where
  | datagram (data : Octets) (origin : α)
  | silence
  | failure (reason : String)

/-- What a client gets of what arrives. -/
def Arrival.received {α : Type} : Arrival α → Except TransportError (Octets × α)
  | .silence => .error .readTimeout
  | .failure reason => .error (.io reason)
  | .datagram data origin =>
    if data.isEmpty then .error .emptyDatagram else .ok (data.take receiveBufferSize, origin)

namespace Arrival

variable {α : Type} (data : Octets) (origin : α)

/-- A datagram with octets is received as far as it fits the buffer. -/
theorem received_datagram (h : data ≠ []) :
    (datagram data origin).received = .ok (data.take receiveBufferSize, origin) := by
  rw [received, if_neg (by rwa [List.isEmpty_iff])]

/-- Something of a datagram with octets fits the buffer. -/
theorem take_receiveBufferSize_ne_nil {data : Octets} (h : data ≠ []) :
    data.take receiveBufferSize ≠ [] := by
  rw [Ne, List.take_eq_nil_iff]
  exact fun hnil => hnil.elim (by decide) h

/-- A datagram is received like the octets of it that fit the buffer. -/
theorem received_datagram_take :
    (datagram (data.take receiveBufferSize) origin).received =
      (datagram data origin).received := by
  by_cases h : data = []
  · rw [h, List.take_nil]
  · rw [received_datagram _ _ (take_receiveBufferSize_ne_nil h), received_datagram _ _ h,
      List.take_take, Nat.min_self]

end Arrival

end Appliance
