import Appliance.Proofs.HandshakeTries
import Appliance.Udp.Connected

/-!
# What an exchange asks of the host

An exchange over UDP gets an address, opens a socket towards it, sends, receives and gives the socket up.
Each of the five can fail, and an end changes its state at four places on the way. All of that is said here
once: an exchange of an end without a connection is the resolution of the address, and then one round with
a socket of its own, which leaves the end without a connection again.

What is asked of the host is seen through a host that keeps a record of it and otherwise answers as before.
The record of an exchange has one of a few shapes, and the record of several is these one after another.
Records are kept as journals are, the latest deed first.
-/

namespace Appliance

namespace Transport

variable {σ : Type} (t : Transport σ) (data : Octets) (timeout : Millis) {l : Line σ}

/-- An exchange without a connection gives the error of opening it. -/
theorem exchange_of_connect_error {e : TransportError} (h : (t.connect l.state).answer = .error e) :
    (t.exchange data timeout l).1 = .error e ∧
      (t.exchange data timeout l).2.state = (t.connect l.state).state := by
  unfold exchange
  dsimp only
  rw [h]
  exact ⟨rfl, Line.state_after _ _ _⟩

/-- An exchange whose datagram cannot be sent gives the error of sending it, and closes. -/
theorem exchange_of_send_error {e : TransportError} (hopen : (t.connect l.state).answer = .ok ())
    (h : (t.send data (t.connect l.state).state).answer = .error e) :
    (t.exchange data timeout l).1 = .error e ∧
      (t.exchange data timeout l).2.state =
        (t.disconnect (t.send data (t.connect l.state).state).state).state := by
  unfold exchange ask
  dsimp only
  rw [hopen]
  dsimp only
  rw [Line.state_after, h, state_close, Line.state_after]
  exact ⟨rfl, rfl⟩

/-- An exchange whose datagram is sent gives what is received, and closes. -/
theorem exchange_of_send (hopen : (t.connect l.state).answer = .ok ())
    (h : (t.send data (t.connect l.state).state).answer = .ok ()) :
    (t.exchange data timeout l).1 =
        (t.receive timeout (t.send data (t.connect l.state).state).state).answer ∧
      (t.exchange data timeout l).2.state =
        (t.disconnect
          (t.receive timeout (t.send data (t.connect l.state).state).state).state).state := by
  unfold exchange ask
  dsimp only
  rw [hopen]
  dsimp only
  rw [Line.state_after, h, state_close, Line.state_after, Line.state_after]
  exact ⟨rfl, rfl⟩

/-- Exchanges one after another: what they give, in order, and the line after them. -/
def exchangeAll : List (Octets × Millis) → Line σ → List (Except TransportError Octets) × Line σ
  | [], l => ([], l)
  | one :: rest, l =>
    let (reply, l) := t.exchange one.1 one.2 l
    let (replies, l) := exchangeAll rest l
    (reply :: replies, l)

/-- Later exchanges go on where the earlier ones have ended. -/
theorem exchangeAll_append (asked later : List (Octets × Millis)) (l : Line σ) :
    (t.exchangeAll (asked ++ later) l).2 = (t.exchangeAll later (t.exchangeAll asked l).2).2 := by
  induction asked generalizing l with
  | nil => rfl
  | cons one asked ih => exact ih _

end Transport

/-! ## Records -/

/-- What a host was asked to do, with its answer. -/
inductive HostDeed where
  | resolve (name : String) (answer : Except String (List SocketAddress))
  | bind (address : SocketAddress) (answer : Except String SocketId)
  | connect (socket : SocketId) (address : SocketAddress) (answer : Except String Unit)
  | send (socket : SocketId) (data : Octets) (answer : Except String Unit)
  | receive (socket : SocketId) (timeout : Millis) (arrival : Arrival Unit)
  | close (socket : SocketId)

/-- A host that answers as before and keeps a record of what it was asked to do, the latest first. -/
def Host.recorded {τ : Type} (h : Host τ) : Host (τ × List HostDeed) where
  resolve name s :=
    ((h.resolve name s.1).1, (h.resolve name s.1).2,
      .resolve name (h.resolve name s.1).1 :: s.2)
  bind address s :=
    ((h.bind address s.1).1, (h.bind address s.1).2, .bind address (h.bind address s.1).1 :: s.2)
  connect socket address s :=
    ((h.connect socket address s.1).1, (h.connect socket address s.1).2,
      .connect socket address (h.connect socket address s.1).1 :: s.2)
  send socket data s :=
    ((h.send socket data s.1).1, (h.send socket data s.1).2,
      .send socket data (h.send socket data s.1).1 :: s.2)
  receive socket timeout s :=
    ((h.receive socket timeout s.1).1, (h.receive socket timeout s.1).2,
      .receive socket timeout (h.receive socket timeout s.1).1 :: s.2)
  close socket s := (h.close socket s.1, .close socket :: s.2)

namespace Host

variable {τ : Type} (h : Host τ) (x : τ) (record : List HostDeed)

theorem recorded_resolve {name : String} {answer : Except String (List SocketAddress)} {y : τ}
    (hx : h.resolve name x = (answer, y)) :
    h.recorded.resolve name (x, record) = (answer, y, .resolve name answer :: record) := by
  simp only [recorded, hx]

theorem recorded_bind {address : SocketAddress} {answer : Except String SocketId} {y : τ}
    (hx : h.bind address x = (answer, y)) :
    h.recorded.bind address (x, record) = (answer, y, .bind address answer :: record) := by
  simp only [recorded, hx]

theorem recorded_connect {socket : SocketId} {address : SocketAddress}
    {answer : Except String Unit} {y : τ} (hx : h.connect socket address x = (answer, y)) :
    h.recorded.connect socket address (x, record) =
      (answer, y, .connect socket address answer :: record) := by
  simp only [recorded, hx]

theorem recorded_send {socket : SocketId} {data : Octets} {answer : Except String Unit} {y : τ}
    (hx : h.send socket data x = (answer, y)) :
    h.recorded.send socket data (x, record) = (answer, y, .send socket data answer :: record) := by
  simp only [recorded, hx]

theorem recorded_receive {socket : SocketId} {timeout : Millis} {arrival : Arrival Unit} {y : τ}
    (hx : h.receive socket timeout x = (arrival, y)) :
    h.recorded.receive socket timeout (x, record) =
      (arrival, y, .receive socket timeout arrival :: record) := by
  simp only [recorded, hx]

end Host

namespace UdpEnd

variable {τ : Type}

/-- The end at a host that has a record. -/
def observe (u : UdpEnd τ) (record : List HostDeed) : UdpEnd (τ × List HostDeed) :=
  ⟨u.address, u.port, u.socket, u.resolved, (u.host, record)⟩

/-! ## The address -/

/-- The first address of an answer, if it has any. -/
def firstAddress : Except String (List SocketAddress) → Option SocketAddress
  | .ok (address :: _) => some address
  | .ok [] | .error _ => none

/-- How an end gets the address of its device, from the one that it knows before, the one that it knows
then, and what it asks of the host for it. -/
inductive Reached (name : String) :
    Option SocketAddress → Except TransportError SocketAddress → Option SocketAddress →
      List HostDeed → Prop
  /-- It is known. -/
  | known (address : SocketAddress) : Reached name (some address) (.ok address) (some address) []
  /-- It is the first that the host gives. -/
  | found (address : SocketAddress) (answer : Except String (List SocketAddress))
      (hanswer : firstAddress answer = some address) :
      Reached name none (.ok address) (some address) [.resolve name answer]
  /-- The host gives none. -/
  | missed (reason : String) (answer : Except String (List SocketAddress))
      (hanswer : firstAddress answer = none) :
      Reached name none (.error (.invalidAddress reason)) none [.resolve name answer]

/-- Getting the address has no part in the connection. -/
theorem socket_resolve (h : Host τ) (u : UdpEnd τ) : (u.resolve h).2.socket = u.socket := by
  unfold resolve
  split
  · rfl
  · split <;> rfl

/-- It has none in where the device is said to be either. -/
theorem given_resolve (h : Host τ) (u : UdpEnd τ) : (u.resolve h).2.given = u.given := by
  unfold resolve
  split
  · rfl
  · split <;> rfl

/-- An end gets its address in one of the ways there are, and a record of it does not change it. -/
theorem exists_reached (h : Host τ) (u : UdpEnd τ) (record : List HostDeed) :
    ∃ found, Reached u.given u.resolved (u.resolve h).1 (u.resolve h).2.resolved found ∧
      (u.observe record).resolve h.recorded =
        ((u.resolve h).1, (u.resolve h).2.observe (found ++ record)) := by
  obtain ⟨place, port, socket, known, x⟩ := u
  cases known with
  | some address => exact ⟨[], .known address, rfl⟩
  | none =>
    generalize hgiven : given ⟨place, port, socket, none, x⟩ = name
    have hgiven' : given ⟨place, port, socket, none, (x, record)⟩ = name := hgiven
    cases hx : h.resolve name x with
    | mk answer y =>
      have hrecorded := h.recorded_resolve x record hx
      simp only [observe, resolve, hgiven, hgiven', hx, hrecorded]
      match answer with
      | .error reason => exact ⟨_, .missed _ (.error reason) rfl, rfl⟩
      | .ok [] => exact ⟨_, .missed _ (.ok []) rfl, rfl⟩
      | .ok (address :: rest) => exact ⟨_, .found address (.ok (address :: rest)) rfl, rfl⟩

/-! ## One socket -/

/-- What a socket gives for a datagram, and the host after it, which has given the socket up. -/
def askOver (h : Host τ) (socket : SocketId) (data : Octets) (timeout : Millis) (x : τ) :
    Except TransportError Octets × τ :=
  match h.send socket data x with
  | (.error reason, x) => (.error (.io reason), h.close socket x)
  | (.ok (), x) =>
    let (arrival, x) := h.receive socket timeout x
    (arrival.received.map (·.1), h.close socket x)

/-- What a socket of its own towards an address gives for a datagram, and the host after it. -/
def ask (h : Host τ) (address : SocketAddress) (data : Octets) (timeout : Millis) (x : τ) :
    Except TransportError Octets × τ :=
  match h.bind address x with
  | (.error reason, x) => (.error (.io reason), x)
  | (.ok socket, x) =>
    match h.connect socket address x with
    | (.error reason, x) => (.error (.io reason), h.close socket x)
    | (.ok (), x) => askOver h socket data timeout x

/-- What a socket of its own towards an address asks of the host, with what it gives. -/
inductive Asked (address : SocketAddress) (data : Octets) (timeout : Millis) :
    Except TransportError Octets → List HostDeed → Prop
  /-- There is no socket. -/
  | unbound (reason : String) :
      Asked address data timeout (.error (.io reason)) [.bind address (.error reason)]
  /-- Its other end cannot be fixed. -/
  | unconnected (socket : SocketId) (reason : String) :
      Asked address data timeout (.error (.io reason))
        [.close socket, .connect socket address (.error reason), .bind address (.ok socket)]
  /-- The datagram cannot be sent. -/
  | unsent (socket : SocketId) (reason : String) :
      Asked address data timeout (.error (.io reason))
        [.close socket, .send socket data (.error reason), .connect socket address (.ok ()),
          .bind address (.ok socket)]
  /-- A datagram is waited for. -/
  | waited (socket : SocketId) (arrival : Arrival Unit) :
      Asked address data timeout (arrival.received.map (·.1))
        [.close socket, .receive socket timeout arrival, .send socket data (.ok ()),
          .connect socket address (.ok ()), .bind address (.ok socket)]

/-- A socket asks one of these things, and a record of it does not change it. -/
theorem exists_asked (h : Host τ) (address : SocketAddress) (data : Octets) (timeout : Millis)
    (x : τ) (record : List HostDeed) :
    ∃ done, Asked address data timeout (ask h address data timeout x).1 done ∧
      ask h.recorded address data timeout (x, record) =
        ((ask h address data timeout x).1, (ask h address data timeout x).2, done ++ record) := by
  unfold ask askOver
  rcases hbind : h.bind address x with ⟨reason | socket, x⟩
  · simp only [h.recorded_bind _ record hbind]
    exact ⟨_, .unbound reason, rfl⟩
  · simp only [h.recorded_bind _ record hbind]
    rcases hconnect : h.connect socket address x with ⟨reason | u, x⟩
    · simp only [h.recorded_connect _ _ hconnect]
      exact ⟨_, .unconnected socket reason, rfl⟩
    · simp only [h.recorded_connect _ _ hconnect]
      rcases hsend : h.send socket data x with ⟨reason | u, x⟩
      · simp only [h.recorded_send _ _ hsend]
        exact ⟨_, .unsent socket reason, rfl⟩
      · rcases hreceive : h.receive socket timeout x with ⟨arrival, y⟩
        simp only [h.recorded_send _ _ hsend, h.recorded_receive _ _ hreceive, hreceive]
        exact ⟨_, .waited socket arrival, rfl⟩

/-! ## Whole exchanges -/

section

variable (h : Host τ) (data : Octets) (timeout : Millis) {l : Line (UdpEnd τ)}

/-- Over a connection an exchange is what its socket gives, and leaves no connection. -/
theorem exchange_of_connect {u : UdpEnd τ} {notes : List Note} {socket : SocketId}
    (hconnect : l.state.connect h = ⟨.ok (), u, notes⟩) (hu : u.socket = some socket) :
    ((transport h).exchange data timeout l).1 = (askOver h socket data timeout u.host).1 ∧
      ((transport h).exchange data timeout l).2.state =
        { u with socket := none, host := (askOver h socket data timeout u.host).2 } := by
  have hopen : (transport h).connect l.state = ⟨.ok (), u, notes⟩ := hconnect
  -- The socket is closed on both ways, after the datagram that cannot be sent as after the wait.
  rcases hsend : h.send socket data u.host with ⟨reason | answer, x⟩
  · have hsent : (transport h).send data u =
        ⟨.error (.io reason), { u with host := x }, [.datagramSent data]⟩ := by
      simp only [transport, send, hu, hsend]
    have hexchange := (transport h).exchange_of_send_error data timeout (l := l) (e := .io reason)
      (by rw [hopen]) (by rw [hopen, hsent])
    rw [hopen, hsent] at hexchange
    simpa only [askOver, hsend, transport, disconnect, hu] using hexchange
  · have hsent : (transport h).send data u =
        ⟨.ok (), { u with host := x }, [.datagramSent data]⟩ := by
      simp only [transport, send, hu, hsend]
    have hexchange := (transport h).exchange_of_send data timeout (l := l)
      (by rw [hopen]) (by rw [hopen, hsent])
    rw [hopen, hsent] at hexchange
    simpa only [askOver, hsend, transport, receive, disconnect, hu] using hexchange

/-- Without a connection an exchange is over, with the error of opening it. -/
theorem exchange_of_not_connect {u : UdpEnd τ} {notes : List Note} {e : TransportError}
    (hconnect : l.state.connect h = ⟨.error e, u, notes⟩) :
    ((transport h).exchange data timeout l).1 = .error e ∧
      ((transport h).exchange data timeout l).2.state = u := by
  have hopen : (transport h).connect l.state = ⟨.error e, u, notes⟩ := hconnect
  have hexchange := (transport h).exchange_of_connect_error data timeout (l := l) (e := e)
    (by rw [hopen])
  rwa [hopen] at hexchange

/-- Without an address there is no connection. -/
theorem exchange_of_resolve_error (hl : l.state.socket = none) {e : TransportError} {u : UdpEnd τ}
    (hresolve : l.state.resolve h = (.error e, u)) :
    ((transport h).exchange data timeout l).1 = .error e ∧
      ((transport h).exchange data timeout l).2.state = u := by
  have hconnect : l.state.connect h = ⟨.error e, u, []⟩ := by
    simp only [connect, isConnected, hl, hresolve, Option.isSome_none, Bool.false_eq_true, if_false]
  exact exchange_of_not_connect h data timeout hconnect

/-- With an address an exchange is what one socket asks and gives, and leaves no connection. -/
theorem exchange_of_resolve (hl : l.state.socket = none) {address : SocketAddress} {u : UdpEnd τ}
    (hresolve : l.state.resolve h = (.ok address, u)) :
    ((transport h).exchange data timeout l).1 = (ask h address data timeout u.host).1 ∧
      ((transport h).exchange data timeout l).2.state =
        { u with host := (ask h address data timeout u.host).2 } := by
  have hu : u.socket = none := by
    have hkept := socket_resolve h l.state
    rwa [hresolve, hl] at hkept
  obtain ⟨place, port, socket, known, x⟩ := u
  subst hu
  rcases hbind : h.bind address x with ⟨reason | socket, y⟩
  · have hconnect : l.state.connect h =
        ⟨.error (.io reason), ⟨place, port, none, known, y⟩, [.socketOpening address.text]⟩ := by
      simp [connect, isConnected, hl, hresolve, hbind]
    simpa only [ask, hbind] using exchange_of_not_connect h data timeout hconnect
  · rcases hfix : h.connect socket address y with ⟨reason | u, z⟩
    · have hconnect : l.state.connect h =
          ⟨.error (.io reason), ⟨place, port, none, known, h.close socket z⟩,
            [.socketOpening address.text]⟩ := by
        simp [connect, isConnected, hl, hresolve, hbind, hfix]
      simpa only [ask, hbind, hfix] using exchange_of_not_connect h data timeout hconnect
    · have hconnect : l.state.connect h =
          ⟨.ok (), ⟨place, port, some socket, known, z⟩, [.socketOpening address.text]⟩ := by
        simp [connect, isConnected, hl, hresolve, hbind, hfix]
      simpa only [ask, hbind, hfix] using exchange_of_connect h data timeout hconnect rfl

end

end UdpEnd

end Appliance
