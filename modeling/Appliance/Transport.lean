import Appliance.Note

/-!
# Transports

A transport is four operations on a state that is its own: it opens a connection, sends one
datagram, receives one and closes. Each operation answers, moves the state and may note something;
nothing is assumed about the answers, so that every behaviour of a network is a transport.

An exchange opens, sends, receives if the datagram could be sent, and closes whatever came of it. A
line is the state of a transport with a journal of all that happened on it.
-/

namespace Appliance

/-- What an operation of a transport answers, the state after it, and what it notes. -/
structure Reaction (σ α : Type) where
  answer : Except TransportError α
  state : σ
  notes : List Note

/-- The operations of a transport on states of a type. -/
structure Transport (σ : Type) where
  connect : σ → Reaction σ Unit
  send : Octets → σ → Reaction σ Unit
  receive : Millis → σ → Reaction σ Octets
  disconnect : σ → Reaction σ Unit
  /-- The address of the other end, as messages name it. -/
  remote : σ → String

/-- An operation of a transport with its answer. -/
inductive Wire where
  | connect (answer : Except TransportError Unit)
  | send (data : Octets) (answer : Except TransportError Unit)
  | receive (timeout : Millis) (answer : Except TransportError Octets)
  | disconnect (answer : Except TransportError Unit)

/-- How the attempt to make a request ends. -/
inductive Verdict where
  | success (value : Json)
  /-- The device refuses for now. -/
  | recoverable (report : ErrorReport)
  /-- Nothing usable came back. -/
  | transport (error : TransportError)
  | fatal (error : DeviceError)
  deriving DecidableEq

/-- An entry of a journal. -/
inductive Entry where
  /-- An operation of the transport. -/
  | wire (operation : Wire)
  /-- The end of a handshake exchange. -/
  | handshake (result : Except DeviceError Header)
  /-- The start of a command. -/
  | command (method : String) (params : Json) (extra : List (String × Json))
  /-- The end of an attempt to make a request. -/
  | attempt (request : Request) (verdict : Verdict)
  | note (note : Note)

/-- The state of a transport and what happened on it, the latest first. -/
structure Line (σ : Type) where
  state : σ
  journal : List Entry

namespace Line

/-- The line with one more entry. -/
def record {σ : Type} (l : Line σ) (e : Entry) : Line σ := { l with journal := e :: l.journal }

/-- The line with some notes more. -/
def noteAll {σ : Type} (l : Line σ) (notes : List Note) : Line σ :=
  notes.foldl (fun l n => l.record (.note n)) l

/-- The line after an operation. -/
def after {σ α : Type} (l : Line σ) (r : Reaction σ α) (operation : Wire) : Line σ :=
  ({ l with state := r.state }.noteAll r.notes).record (.wire operation)

end Line

namespace Transport

variable {σ : Type}

/-- Sends a datagram over an open connection and receives the reply, if it could be sent. -/
def ask (t : Transport σ) (data : Octets) (timeout : Millis) (l : Line σ) :
    Except TransportError Octets × Line σ :=
  let s := t.send data l.state
  let l := l.after s (.send data s.answer)
  match s.answer with
  | .error e => (.error e, l)
  | .ok () =>
    let r := t.receive timeout l.state
    (r.answer, l.after r (.receive timeout r.answer))

/-- Closes a connection; a failure is only noted. -/
def close (t : Transport σ) (l : Line σ) : Line σ :=
  let d := t.disconnect l.state
  let l := l.after d (.disconnect d.answer)
  match d.answer with
  | .ok () => l
  | .error e => l.record (.note (.closeFailed (t.remote l.state) e))

/-- Opens a connection, sends one datagram, waits for one reply and closes. -/
def exchange (t : Transport σ) (data : Octets) (timeout : Millis) (l : Line σ) :
    Except TransportError Octets × Line σ :=
  let c := t.connect l.state
  let l := l.after c (.connect c.answer)
  match c.answer with
  | .error e => (.error e, l)
  | .ok () =>
    let (reply, l) := t.ask data timeout l
    (reply, t.close l)

/-- The header that a reply to a handshake has. -/
def headerOfReply : Except TransportError Octets → Except DeviceError Header
  | .error e => .error (.transport e)
  | .ok reply =>
    match Header.parse reply with
    | .error e => .error (.protocol e)
    | .ok header => .ok header

/-- Sends a handshake and reads the header of the reply. -/
def handshake (t : Transport σ) (timeout : Millis) (l : Line σ) :
    Except DeviceError Header × Line σ :=
  let (reply, l) := t.exchange Frame.handshake timeout l
  let result := headerOfReply reply
  let l :=
    match result with
    | .ok header => l.record (.note (.handshakeReply (t.remote l.state) header))
    | .error _ => l
  (result, l.record (.handshake result))

end Transport

end Appliance
