import Appliance.Transport
import Appliance.Udp.Host

/-!
# Datagrams to one device

The transport over UDP: a connection is a fresh socket whose other end is fixed, so that only
datagrams from there are received. The address of the device is resolved when it is first needed and
kept from then on; a failure to resolve it is not kept.
-/

namespace Appliance

/-- The end of a transport over UDP: where the device is, the socket while a connection is open, the
address once it is resolved, and the state of the host. -/
structure UdpEnd (τ : Type) where
  address : String
  port : UInt16
  socket : Option SocketId
  resolved : Option SocketAddress
  host : τ

namespace UdpEnd

variable {τ : Type}

/-- An end without a connection. -/
def new (address : String) (port : UInt16) (host : τ) : UdpEnd τ := ⟨address, port, none, none, host⟩

/-- A connection is open. -/
def isConnected (u : UdpEnd τ) : Bool := u.socket.isSome

/-- Where the device is, with its port, as it was given. -/
def given (u : UdpEnd τ) : String := u.address ++ ":" ++ toString u.port

/-- Where the device is: its address if it is resolved. -/
def remote (u : UdpEnd τ) : String :=
  match u.resolved with
  | some address => address.text
  | none => u.given

/-- The address of the device: the one kept, or the first one that the host gives, which is kept. -/
def resolve (h : Host τ) (u : UdpEnd τ) : Except TransportError SocketAddress × UdpEnd τ :=
  match u.resolved with
  | some address => (.ok address, u)
  | none =>
    match h.resolve u.given u.host with
    | (.error reason, host) => (.error (.invalidAddress (u.given ++ ": " ++ reason)), { u with host })
    | (.ok [], host) => (.error (.invalidAddress ("No addresses found for " ++ u.given)), { u with host })
    | (.ok (address :: _), host) => (.ok address, { u with resolved := some address, host })

/-- Opens a connection. A socket whose other end cannot be fixed is given up again. -/
def connect (h : Host τ) (u : UdpEnd τ) : Reaction (UdpEnd τ) Unit :=
  if u.isConnected then ⟨.error .alreadyConnected, u, []⟩
  else
    match u.resolve h with
    | (.error e, u) => ⟨.error e, u, []⟩
    | (.ok address, u) =>
      let notes := [Note.socketOpening address.text]
      match h.bind address u.host with
      | (.error reason, host) => ⟨.error (.io reason), { u with host }, notes⟩
      | (.ok socket, host) =>
        match h.connect socket address host with
        | (.error reason, host) => ⟨.error (.io reason), { u with host := h.close socket host }, notes⟩
        | (.ok (), host) => ⟨.ok (), { u with socket := some socket, host }, notes⟩

/-- Closes the connection if there is one. -/
def disconnect (h : Host τ) (u : UdpEnd τ) : Reaction (UdpEnd τ) Unit :=
  match u.socket with
  | none => ⟨.ok (), u, []⟩
  | some socket =>
    ⟨.ok (), { u with socket := none, host := h.close socket u.host }, [.socketClosed u.remote]⟩

/-- Sends a datagram over the connection. -/
def send (h : Host τ) (data : Octets) (u : UdpEnd τ) : Reaction (UdpEnd τ) Unit :=
  match u.socket with
  | none => ⟨.error .notConnected, u, []⟩
  | some socket =>
    match h.send socket data u.host with
    | (.error reason, host) => ⟨.error (.io reason), { u with host }, [.datagramSent data]⟩
    | (.ok (), host) => ⟨.ok (), { u with host }, [.datagramSent data]⟩

/-- What is noted of what arrives. -/
def arrivalNotes (timeout : Millis) (arrival : Arrival Unit) : List Note :=
  match arrival, arrival.received with
  | .failure reason, _ => [.readError reason]
  | .silence, _ => [.readTimeout timeout]
  | _, .ok (data, _) => [.datagramReceived data]
  | _, .error _ => [.emptyDatagram]

/-- Waits for a datagram over the connection. -/
def receive (h : Host τ) (timeout : Millis) (u : UdpEnd τ) : Reaction (UdpEnd τ) Octets :=
  match u.socket with
  | none => ⟨.error .notConnected, u, []⟩
  | some socket =>
    let (arrival, host) := h.receive socket timeout u.host
    ⟨arrival.received.map (·.1), { u with host }, arrivalNotes timeout arrival⟩

/-- The transport over the sockets of a host. -/
def transport (h : Host τ) : Transport (UdpEnd τ) where
  connect u := u.connect h
  send data u := u.send h data
  receive timeout u := u.receive h timeout
  disconnect u := u.disconnect h
  remote u := u.remote

end UdpEnd

end Appliance
