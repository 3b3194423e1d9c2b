import Appliance.Proofs.UdpExchanges

/-!
# Sockets over many exchanges

An end without a connection makes one exchange after another, and every step of each can fail. Between two
exchanges there is no connection, and no socket of theirs is left at the host: this is the invariant, and
what one exchange asks of the host is why it holds. Once an address is known all that follows keeps to it,
and the host is asked for it no more; as long as none is known the host is asked in every exchange.

What is asked of the host is read off the record that it keeps, the latest deed first.
-/

namespace Appliance

/-! ## What is received -/

namespace Arrival

variable {α : Type} {arrival : Arrival α}

/-- What is received has octets, and fits the buffer. -/
theorem octets_of_received {data : Octets} (h : arrival.received.map (·.1) = .ok data) :
    data ≠ [] ∧ data.length ≤ receiveBufferSize := by
  cases arrival with
  | silence | failure reason => cases h
  | datagram sent origin =>
    rw [received] at h
    split at h
    · cases h
    · rename_i hsent
      cases h
      exact ⟨take_receiveBufferSize_ne_nil (mt List.isEmpty_iff.mpr hsent), List.length_take_le _ _⟩

end Arrival

/-- A reply that does not blame the connection: it neither was open already nor is missing. -/
def Unblamed (reply : Except TransportError Octets) : Prop :=
  reply ≠ .error .alreadyConnected ∧ reply ≠ .error .notConnected

/-- What is received blames no connection. -/
theorem Arrival.unblamed (arrival : Arrival Unit) : Unblamed (arrival.received.map (·.1)) := by
  cases arrival with
  | silence | failure reason => simp [Unblamed, received, Except.map]
  | datagram sent origin =>
    rw [received]
    split <;> simp [Unblamed, Except.map]

/-! ## The sockets and the addresses of a record -/

/-- The sockets that are open at the end of a record. -/
def openSockets : List HostDeed → List SocketId
  | [] => []
  | .bind _ (.ok socket) :: before => socket :: openSockets before
  | .close socket :: before => (openSockets before).erase socket
  | _ :: before => openSockets before

namespace HostDeed

/-- A deed that asks for no address and opens a socket towards the given one at most. -/
def KeepsTo (address : SocketAddress) : HostDeed → Prop
  | .resolve _ _ => False
  | .bind towards _ | .connect _ towards _ => towards = address
  | .send _ _ _ | .receive _ _ _ | .close _ => True

/-- A socket is asked for. -/
def isBind : HostDeed → Bool
  | .bind _ _ => true
  | .resolve _ _ | .connect _ _ _ | .send _ _ _ | .receive _ _ _ | .close _ => false

end HostDeed

namespace UdpEnd

/-! ## One exchange -/

namespace Asked

variable {address : SocketAddress} {data : Octets} {timeout : Millis}
  {reply : Except TransportError Octets} {done : List HostDeed}

/-- A socket blames no connection. -/
theorem unblamed (h : Asked address data timeout reply done) : Unblamed reply := by
  cases h with
  | unbound | unconnected | unsent => exact ⟨nofun, nofun⟩
  | waited socket arrival => exact arrival.unblamed

/-- A socket that is opened is closed. -/
theorem openSockets_append (h : Asked address data timeout reply done) (before : List HostDeed) :
    openSockets (done ++ before) = openSockets before := by
  cases h with
  | unbound => rfl
  | unconnected | unsent | waited => simp [openSockets]

/-- A socket keeps to its address. -/
theorem keepsTo (h : Asked address data timeout reply done) : ∀ e ∈ done, e.KeepsTo address := by
  cases h <;> simp [HostDeed.KeepsTo]

/-- One socket is asked for. -/
theorem countP_isBind (h : Asked address data timeout reply done) : done.countP HostDeed.isBind = 1 := by
  cases h <;> rfl

end Asked

/-- What one exchange of an end without a connection gives, with the address that is known before and
after it and with what is asked of the host. -/
inductive Served (name : String) (data : Octets) (timeout : Millis) (known : Option SocketAddress) :
    Except TransportError Octets → Option SocketAddress → List HostDeed → Prop
  /-- There is no address. -/
  | unreached (known' : Option SocketAddress) (e : TransportError) (found : List HostDeed)
      (hfound : Reached name known (.error e) known' found) :
      Served name data timeout known (.error e) known' found
  /-- A socket towards the address is asked. -/
  | used (known' : Option SocketAddress) (address : SocketAddress)
      (reply : Except TransportError Octets) (found done : List HostDeed)
      (hfound : Reached name known (.ok address) known' found)
      (hdone : Asked address data timeout reply done) :
      Served name data timeout known reply known' (done ++ found)

namespace Served

variable {name : String} {data : Octets} {timeout : Millis} {known known' : Option SocketAddress}
  {address : SocketAddress} {reply : Except TransportError Octets} {done : List HostDeed}

/-- An exchange blames no connection. -/
theorem unblamed (h : Served name data timeout known reply known' done) : Unblamed reply := by
  cases h with
  | unreached known' e found hfound => cases hfound with | missed => exact ⟨nofun, nofun⟩
  | used known' address reply found done hfound hdone => exact hdone.unblamed

/-- An exchange leaves open what was open before. -/
theorem openSockets_append (h : Served name data timeout known reply known' done)
    (before : List HostDeed) : openSockets (done ++ before) = openSockets before := by
  cases h with
  | unreached known' e found hfound => cases hfound with | missed => rfl
  | used known' address reply found done hfound hdone =>
    rw [List.append_assoc, hdone.openSockets_append]
    cases hfound <;> rfl

/-- An exchange from a known address keeps to it, and asks for one socket. -/
theorem of_known (h : Served name data timeout (some address) reply known' done) :
    known' = some address ∧ (∀ e ∈ done, e.KeepsTo address) ∧ done.countP HostDeed.isBind = 1 := by
  cases h with
  | unreached known' e found hfound => cases hfound
  | used known' address reply found done hfound hdone =>
    cases hfound
    rw [List.append_nil]
    exact ⟨rfl, hdone.keepsTo, hdone.countP_isBind⟩

/-- An exchange without a known address asks for one first. The first of the answer is kept and used, and
if there is none nothing is kept and nothing more is asked. -/
theorem of_unknown (h : Served name data timeout none reply known' done) :
    ∃ answer later, done = later ++ [.resolve name answer] ∧ known' = firstAddress answer ∧
      ∀ e ∈ later, ∃ address, firstAddress answer = some address ∧ e.KeepsTo address := by
  cases h with
  | unreached known' e found hfound =>
    cases hfound with
    | missed reason answer hanswer => exact ⟨answer, [], rfl, hanswer.symm, nofun⟩
  | used known' address reply found done hfound hdone =>
    cases hfound with
    | found _ answer hanswer =>
      exact ⟨answer, done, rfl, hanswer.symm, fun e he => ⟨address, hanswer, hdone.keepsTo e he⟩⟩

end Served

variable {τ : Type}

/-- An exchange of an end without a connection leaves none, and asks of the host what an exchange can ask.
A record of it changes nothing. -/
theorem exists_served (h : Host τ) (data : Octets) (timeout : Millis) {l : Line (UdpEnd τ)}
    {l' : Line (UdpEnd (τ × List HostDeed))} {record : List HostDeed} (hl : l.state.socket = none)
    (hl' : l'.state = l.state.observe record) :
    ∃ done, Served l.state.given data timeout l.state.resolved
        ((transport h).exchange data timeout l).1
        ((transport h).exchange data timeout l).2.state.resolved done ∧
      ((transport h).exchange data timeout l).2.state.socket = none ∧
      ((transport h).exchange data timeout l).2.state.given = l.state.given ∧
      ((transport h.recorded).exchange data timeout l').1 =
        ((transport h).exchange data timeout l).1 ∧
      ((transport h.recorded).exchange data timeout l').2.state =
        ((transport h).exchange data timeout l).2.state.observe (done ++ record) := by
  obtain ⟨found, hfound, hrecorded⟩ := exists_reached h l.state record
  have hsocket := socket_resolve h l.state
  have hgiven := given_resolve h l.state
  have hnone : l'.state.socket = none := by rw [hl']; exact hl
  rw [← hl'] at hrecorded
  -- Both runs get the address in the same way, so that one case split serves the two of them.
  rcases hresolve : l.state.resolve h with ⟨e | address, u⟩
  · rw [hresolve] at hfound hrecorded hsocket hgiven
    obtain ⟨hreply, hstate⟩ := exchange_of_resolve_error h data timeout hl hresolve
    obtain ⟨hreply', hstate'⟩ := exchange_of_resolve_error h.recorded data timeout hnone hrecorded
    rw [hreply, hstate, hreply', hstate']
    exact ⟨found, .unreached _ e found hfound, hsocket.trans hl, hgiven, rfl, rfl⟩
  · rw [hresolve] at hfound hrecorded hsocket hgiven
    obtain ⟨done, hdone, hasked⟩ := exists_asked h address data timeout u.host (found ++ record)
    obtain ⟨hreply, hstate⟩ := exchange_of_resolve h data timeout hl hresolve
    obtain ⟨hreply', hstate'⟩ := exchange_of_resolve h.recorded data timeout hnone hrecorded
    have hask : ask h.recorded address data timeout (u.observe (found ++ record)).host =
        ((ask h address data timeout u.host).1, (ask h address data timeout u.host).2,
          done ++ (found ++ record)) := hasked
    rw [hask] at hreply' hstate'
    rw [hreply, hstate, hreply', hstate', ← List.append_assoc]
    exact ⟨done ++ found, .used _ address _ found done hfound hdone, hsocket.trans hl, hgiven, rfl,
      rfl⟩

/-! ## Many exchanges -/

/-- What exchanges one after another give, with the address that is known before and after them and with
what is asked of the host. -/
inductive ServedAll (name : String) :
    List (Octets × Millis) → Option SocketAddress → List (Except TransportError Octets) →
      Option SocketAddress → List HostDeed → Prop
  | nothing (known : Option SocketAddress) : ServedAll name [] known [] known []
  | next (one : Octets × Millis) (asked : List (Octets × Millis))
      (known known' last : Option SocketAddress) (reply : Except TransportError Octets)
      (replies : List (Except TransportError Octets)) (done later : List HostDeed)
      (h : Served name one.1 one.2 known reply known' done)
      (hlater : ServedAll name asked known' replies last later) :
      ServedAll name (one :: asked) known (reply :: replies) last (later ++ done)

namespace ServedAll

variable {name : String} {asked : List (Octets × Millis)} {known last : Option SocketAddress}
  {replies : List (Except TransportError Octets)} {done : List HostDeed}

/-- No exchange blames a connection. -/
theorem unblamed (h : ServedAll name asked known replies last done) :
    ∀ reply ∈ replies, Unblamed reply := by
  induction h with
  | nothing known => nofun
  | next one asked known known' last reply replies done later h hlater ih =>
    exact List.forall_mem_cons.mpr ⟨h.unblamed, ih⟩

/-- Exchanges leave open what was open before. -/
theorem openSockets_append (h : ServedAll name asked known replies last done)
    (before : List HostDeed) : openSockets (done ++ before) = openSockets before := by
  induction h generalizing before with
  | nothing known => rfl
  | next one asked known known' last reply replies done later h hlater ih =>
    rw [List.append_assoc, ih, h.openSockets_append]

/-- Exchanges from a known address keep to it, and each asks for one socket. -/
theorem of_known {address : SocketAddress}
    (h : ServedAll name asked known replies last done) (hknown : known = some address) :
    last = some address ∧ (∀ e ∈ done, e.KeepsTo address) ∧
      done.countP HostDeed.isBind = asked.length := by
  induction h with
  | nothing known => exact ⟨hknown, nofun, rfl⟩
  | next one asked known known' last reply replies done later h hlater ih =>
    subst hknown
    obtain ⟨hkept, hdone, hcount⟩ := h.of_known
    obtain ⟨hlast, hall, hcounts⟩ := ih hkept
    refine ⟨hlast, List.forall_mem_append.mpr ⟨hall, hdone⟩, ?_⟩
    rw [List.countP_append, hcounts, hcount, List.length_cons]

/-- One exchange is served as one. -/
theorem served {one : Octets × Millis} (h : ServedAll name [one] known replies last done) :
    ∃ reply, Served name one.1 one.2 known reply last done := by
  cases h with
  | next _ _ _ known' _ reply replies done later h hlater =>
    cases hlater
    exact ⟨reply, h⟩

end ServedAll

/-- Exchanges of an end without a connection leave none, and ask of the host what exchanges can ask. A
record of them changes nothing. -/
theorem exists_servedAll (h : Host τ) (asked : List (Octets × Millis)) {l : Line (UdpEnd τ)}
    {l' : Line (UdpEnd (τ × List HostDeed))} {record : List HostDeed} (hl : l.state.socket = none)
    (hl' : l'.state = l.state.observe record) :
    ∃ done, ServedAll l.state.given asked l.state.resolved ((transport h).exchangeAll asked l).1
        ((transport h).exchangeAll asked l).2.state.resolved done ∧
      ((transport h).exchangeAll asked l).2.state.socket = none ∧
      ((transport h).exchangeAll asked l).2.state.given = l.state.given ∧
      ((transport h.recorded).exchangeAll asked l').1 = ((transport h).exchangeAll asked l).1 ∧
      ((transport h.recorded).exchangeAll asked l').2.state =
        ((transport h).exchangeAll asked l).2.state.observe (done ++ record) := by
  induction asked generalizing l l' record with
  | nil => exact ⟨[], .nothing _, hl, rfl, rfl, hl'⟩
  | cons one asked ih =>
    obtain ⟨done, hdone, hnone, hgiven, hreply, hstate⟩ := exists_served h one.1 one.2 hl hl'
    -- That there is no connection again is what the rest of the run starts from.
    obtain ⟨later, hlater, hnoneLater, hgivenLater, hreplies, hlast⟩ := ih hnone hstate
    rw [hgiven] at hlater hgivenLater
    rw [← List.append_assoc] at hlast
    exact ⟨later ++ done, .next one asked _ _ _ _ _ done later hdone hlater, hnoneLater, hgivenLater,
      congrArg₂ List.cons hreply hreplies, hlast⟩

/-! ## The life of an end -/

/-- What is received over a connection has octets, and fits the buffer. -/
theorem octets_of_receive (h : Host τ) (u : UdpEnd τ) (timeout : Millis) {data : Octets}
    (hdata : (u.receive h timeout).answer = .ok data) :
    data ≠ [] ∧ data.length ≤ receiveBufferSize := by
  unfold receive at hdata
  split at hdata
  · cases hdata
  · exact Arrival.octets_of_received hdata

/-- The end after exchanges one after another. -/
def endAfter (h : Host τ) (asked : List (Octets × Millis)) (l : Line (UdpEnd τ)) : UdpEnd τ :=
  ((transport h).exchangeAll asked l).2.state

/-- The line at a host that has a record. -/
def recordedLine (l : Line (UdpEnd τ)) : Line (UdpEnd (τ × List HostDeed)) :=
  ⟨l.state.observe [], l.journal⟩

/-- The record is empty at first. -/
theorem state_recordedLine (l : Line (UdpEnd τ)) : (recordedLine l).state = l.state.observe [] := rfl

/-- What exchanges one after another ask of the host. -/
def hostDeeds (h : Host τ) (asked : List (Octets × Millis)) (l : Line (UdpEnd τ)) : List HostDeed :=
  (endAfter h.recorded asked (recordedLine l)).host.2

section

variable (h : Host τ) (asked later : List (Octets × Millis)) {l : Line (UdpEnd τ)}

/-- A record of exchanges changes nothing. -/
theorem exchangeAll_recorded (hl : l.state.socket = none) :
    ((transport h.recorded).exchangeAll asked (recordedLine l)).1 =
        ((transport h).exchangeAll asked l).1 ∧
      endAfter h.recorded asked (recordedLine l) =
        (endAfter h asked l).observe (hostDeeds h asked l) := by
  obtain ⟨done, -, -, -, hreplies, hstate⟩ := exists_servedAll h asked hl (state_recordedLine l)
  refine ⟨hreplies, ?_⟩
  rw [hostDeeds, endAfter, hstate]
  rfl

/-- Later exchanges go on where the earlier ones have left the end, and put what they ask of the host in
front. -/
theorem exists_servedAll_append (hl : l.state.socket = none) :
    ∃ replies done, ServedAll l.state.given later (endAfter h asked l).resolved replies
        (endAfter h (asked ++ later) l).resolved done ∧
      hostDeeds h (asked ++ later) l = done ++ hostDeeds h asked l := by
  obtain ⟨-, -, hnone, hgiven, -, -⟩ := exists_servedAll h asked hl (state_recordedLine l)
  obtain ⟨done, hdone, -, -, -, hstate⟩ :=
    exists_servedAll h later hnone (exchangeAll_recorded h asked hl).2
  rw [hgiven, ← Transport.exchangeAll_append] at hdone
  refine ⟨_, done, hdone, ?_⟩
  rw [hostDeeds, endAfter, Transport.exchangeAll_append, hstate]
  rfl

end

/-- The life of an end that starts without a connection, whatever the host answers. After any exchanges
there is no connection, every socket that they have opened is closed, and none of them was refused because
a connection was open or missing; a record of them changes nothing. Once an address is known it stays, and
each later exchange asks for one socket, towards that address, and for no address. As long as none is known
an exchange asks for it before anything else; it keeps and uses the first one of the answer, or keeps none
and asks no more. What is received has octets and fits the buffer. -/
theorem life_of_exchanges (h : Host τ) (l : Line (UdpEnd τ)) (hl : l.state.isConnected = false) :
    (∀ asked, (endAfter h asked l).isConnected = false ∧
      openSockets (hostDeeds h asked l) = [] ∧
      ∀ reply ∈ ((transport h).exchangeAll asked l).1,
        reply ≠ .error .alreadyConnected ∧ reply ≠ .error .notConnected) ∧
    (∀ asked, ((transport h.recorded).exchangeAll asked (recordedLine l)).1 =
        ((transport h).exchangeAll asked l).1 ∧
      endAfter h.recorded asked (recordedLine l) =
        (endAfter h asked l).observe (hostDeeds h asked l)) ∧
    (∀ asked later address, (endAfter h asked l).resolved = some address →
      (endAfter h (asked ++ later) l).resolved = some address ∧
      ∃ done, hostDeeds h (asked ++ later) l = done ++ hostDeeds h asked l ∧
        (∀ e ∈ done, e.KeepsTo address) ∧ done.countP HostDeed.isBind = later.length) ∧
    (∀ asked one, (endAfter h asked l).resolved = none →
      ∃ answer done, hostDeeds h (asked ++ [one]) l =
          done ++ .resolve l.state.given answer :: hostDeeds h asked l ∧
        (endAfter h (asked ++ [one]) l).resolved = firstAddress answer ∧
        ∀ e ∈ done, ∃ address, firstAddress answer = some address ∧ e.KeepsTo address) ∧
    ∀ (u : UdpEnd τ) (timeout : Millis) (data : Octets), (u.receive h timeout).answer = .ok data →
      data ≠ [] ∧ data.length ≤ receiveBufferSize := by
  have hnone : l.state.socket = none := Option.isNone_iff_eq_none.mp (by
    rw [← Option.not_isSome, ← isConnected, hl]
    rfl)
  refine ⟨fun asked => ?_, fun asked => exchangeAll_recorded h asked hnone,
    fun asked later address hknown => ?_, fun asked one hunknown => ?_, fun u timeout data hdata => ?_⟩
  · obtain ⟨done, hdone, hclosed, -, -, hstate⟩ :=
      exists_servedAll h asked hnone (state_recordedLine l)
    refine ⟨?_, ?_, hdone.unblamed⟩
    · rw [isConnected, endAfter, hclosed]
      rfl
    · rw [hostDeeds, endAfter, hstate]
      exact hdone.openSockets_append []
  · obtain ⟨replies, done, hdone, hdeeds⟩ := exists_servedAll_append h asked later hnone
    obtain ⟨hlast, hkept, hcount⟩ := hdone.of_known hknown
    exact ⟨hlast, done, hdeeds, hkept, hcount⟩
  · obtain ⟨replies, done, hdone, hdeeds⟩ := exists_servedAll_append h asked [one] hnone
    obtain ⟨reply, hserved⟩ := hdone.served
    rw [hunknown] at hserved
    obtain ⟨answer, later, rfl, hlast, hkept⟩ := hserved.of_unknown
    refine ⟨answer, later, ?_, hlast, hkept⟩
    rw [hdeeds, List.append_assoc]
    rfl
  · exact octets_of_receive h u timeout hdata

/-- A host that cannot resolve a name at first and refuses the first connection. -/
def stumbling : Host Nat where
  resolve _ x :=
    (if x = 0 then .error "no answer"
      else .ok [.v4 ⟨10, 0, 0, 1⟩ 54321, .v4 ⟨10, 0, 0, 2⟩ 54321], x + 1)
  bind _ x := (.ok x, x + 1)
  connect _ _ x := (if x = 3 then .error "refused" else .ok (), x + 1)
  send _ _ x := (.ok (), x + 1)
  receive _ _ x := (.datagram [7] (), x + 1)
  close _ x := x + 1

/-- Two exchanges fail there and the third is answered. No socket is left by the three, and all that
follow keep the first of the two addresses. -/
theorem life_of_stumbling_exchanges :
    (UdpEnd.new "lamp" 54321 0).isConnected = false ∧
      ((transport stumbling).exchangeAll [([1], 500), ([2], 500), ([3], 500)]
          ⟨.new "lamp" 54321 0, []⟩).1 =
        [.error (.invalidAddress "lamp:54321: no answer"), .error (.io "refused"), .ok [7]] ∧
      openSockets (hostDeeds stumbling [([1], 500), ([2], 500), ([3], 500)]
        ⟨.new "lamp" 54321 0, []⟩) = [] ∧
      ∀ later, (endAfter stumbling ([([1], 500), ([2], 500), ([3], 500)] ++ later)
        ⟨.new "lamp" 54321 0, []⟩).resolved = some (.v4 ⟨10, 0, 0, 1⟩ 54321) := by
  obtain ⟨hclosed, -, hkept, -⟩ := life_of_exchanges stumbling ⟨.new "lamp" 54321 0, []⟩ rfl
  exact ⟨rfl, rfl, (hclosed _).2.1, fun later => (hkept _ later _ rfl).1⟩

end UdpEnd

end Appliance
