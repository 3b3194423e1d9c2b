import Appliance.Transport
import Appliance.Udp.Arrival

/-!
# Scans for devices

A scanner asks for devices with the handshake, for which no token is needed, and takes the header of
an answer for the device. It asks one address over a transport, or everyone at once from a socket of
its own, which it then reads until the time is up or reading fails. An answer that is no frame is
passed over; of several answers from one host, in this scan or in earlier ones over the same set,
the first one counts.
-/

namespace Appliance

/-- A scanner, by its settings. -/
structure Scanner where
  config : DiscoveryConfig
  deriving DecidableEq, Repr

/-- How often a handshake for everyone is sent. -/
def broadcastRepeats : Nat := 3

/-- What a client gets when it reads its socket: a datagram with its source, or an error. -/
abbrev Reception := Except TransportError (Octets × SocketAddress)

/-- What happens at the socket of one scan: how its opening and each sending end, and what is received
until the time is up. -/
structure Window where
  bind : Except TransportError Unit
  send : Nat → Except TransportError Unit
  receptions : List Reception

/-- What a scan for everyone gives: the number of new devices or an error, the new devices in the
order in which they were reported, the set after it, and what was not received any more. -/
structure Scan where
  answer : Except DeviceError Nat
  reported : List Discovered
  seen : DiscoverySet
  unread : List Reception

namespace Scanner

/-- A scanner that is told nothing. -/
def default : Scanner := ⟨.default⟩

/-- The scanner with another waiting time. -/
def withTimeout (s : Scanner) (timeout : Millis) : Scanner := ⟨s.config.withTimeout timeout⟩

/-! ## One address -/

/-- Asks the device at an address over a transport to it. Silence means that there is none. -/
def unicast {σ : Type} (s : Scanner) (t : Transport σ) (address : SocketAddress) (l : Line σ) :
    Except DeviceError (Option Discovered) × Line σ :=
  match t.handshake s.config.timeout l with
  | (.ok header, l) =>
    let device := Discovered.ofHeader address header
    (.ok (some device), l.record (.note (.deviceFound device)))
  | (.error (.transport .readTimeout), l) =>
    (.ok none, l.record (.note (.noHandshakeReply address.text)))
  | (.error e, l) => (.error e, l)

/-! ## Everyone -/

/-- Reads answers until the first error or the end of the time, in front of what was found already. -/
def listen (found : Nat) (reported : List Discovered) (seen : DiscoverySet) :
    List Reception → Scan
  | [] => ⟨.ok found, reported.reverse, seen, []⟩
  | .error _ :: rest => ⟨.ok found, reported.reverse, seen, rest⟩
  | .ok (data, source) :: rest =>
    match Header.parse data with
    | .error _ => listen found reported seen rest
    | .ok header =>
      let device := Discovered.ofHeader source header
      match seen.insert device with
      | (true, seen) => listen (found + 1) (device :: reported) seen rest
      | (false, seen) => listen found reported seen rest

/-- How sending the handshake to everyone ends: with the first error among its repetitions. -/
def sendAll (send : Nat → Except TransportError Unit) : Except TransportError Unit :=
  (List.range broadcastRepeats).forM send

/-- Asks everyone and reports each new device; the set is the one of earlier scans. -/
def broadcastWith (_ : Scanner) (w : Window) (seen : DiscoverySet) : Scan :=
  match w.bind with
  | .error e => ⟨.error (.transport e), [], seen, w.receptions⟩
  | .ok () =>
    match sendAll w.send with
    | .error e => ⟨.error (.transport e), [], seen, w.receptions⟩
    | .ok () => listen 0 [] seen w.receptions

/-- Asks everyone and gives the new devices, with the set after it. -/
def broadcast (s : Scanner) (w : Window) (seen : DiscoverySet) :
    Except DeviceError (List Discovered) × DiscoverySet :=
  let scan := s.broadcastWith w seen
  (scan.answer.map fun _ => scan.reported, scan.seen)

/-- Asks everyone and gives all devices that answer. -/
def discover (s : Scanner) (w : Window) : Except DeviceError (List Discovered) :=
  (s.broadcast w .empty).1

/-- What is noted while answers are read, after a number of devices found. -/
def listenNotes (found : Nat) (seen : DiscoverySet) : List Reception → List Note
  | [] => [.scanDone found]
  | .error e :: _ => [if e.isTimeout then .scanDone found else .scanReadError e]
  | .ok (data, source) :: rest =>
    .receivedFrom data.length source.text ::
      match Header.parse data with
      | .error e => .scanReplyIgnored source.text e :: listenNotes found seen rest
      | .ok header =>
        let device := Discovered.ofHeader source header
        match seen.insert device with
        | (true, seen) => .deviceFound device :: listenNotes (found + 1) seen rest
        | (false, seen) => .scanDuplicate source.text :: listenNotes found seen rest

/-- What is noted during a scan for everyone. -/
def broadcastNotes (s : Scanner) (w : Window) (seen : DiscoverySet) : List Note :=
  let target := s.config.broadcastAddress.text
  let sending := Note.sentTo Frame.handshake.length target
  match w.bind with
  | .error _ => []
  | .ok () =>
    .scanStarted target ::
      match sendAll w.send with
      | .error _ =>
        List.replicate
          (((List.range broadcastRepeats).takeWhile fun i => (w.send i).isOk).length + 1) sending
      | .ok () => List.replicate broadcastRepeats sending ++ listenNotes 0 seen w.receptions

end Scanner

end Appliance
