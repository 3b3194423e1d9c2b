import Appliance.Device
import Appliance.Proofs.FrameAcceptance
import Appliance.Proofs.FrameRoundTrip

/-!
# How replies are judged

A reply is whatever octets arrive, and nothing says who sent them. A reply that is of no use, for
whatever reason, ends its call in an error that says the reason, and leaves the session exactly as it
was. Only a reply that is authentic under the token of the session, has a body and is a response
moves the session, and then no more of it than the clock and the counter.

The five ways to judge a reply are one relation, so that each law is a case for each of them.
-/

namespace Appliance

/-! ## Responses -/

namespace Response

/-- The id of a body is the integer of 32 bits under its key. -/
theorem idOf_eq_some_iff (body : Json) (id : UInt32) :
    idOf body = some id ↔ body.get? "id" = some (.number (.integer id.toNat)) := by
  unfold idOf
  split
  · rename_i n hbody
    rw [hbody]
    have hid := id.toNat_lt
    by_cases hn : 0 ≤ n ∧ n < 4294967296
    · rw [if_pos hn, Option.some.injEq, Option.some.injEq, Json.number.injEq,
        Number.integer.injEq, ← UInt32.toNat_inj, UInt32.toNat_ofNat']
      omega
    · rw [if_neg hn, Option.some.injEq, Json.number.injEq, Number.integer.injEq]
      constructor
      · intro h
        cases h
      · intro h
        omega
  · rename_i hbody
    constructor
    · intro h
      cases h
    · intro h
      exact absurd h (hbody _)

/-- A body that is a response keeps its id, and one that is none has an error of its payload. -/
theorem ofJson_cases (body : Json) :
    (∃ reply, ofJson body = .ok ⟨idOf body, reply⟩) ∨
      ∃ error, ofJson body = .error (.payload error) := by
  unfold ofJson
  split
  · exact Or.inl ⟨_, rfl⟩
  · split
    · exact Or.inl ⟨_, rfl⟩
    · exact Or.inr ⟨_, rfl⟩
  · split
    · exact Or.inl ⟨_, rfl⟩
    · exact Or.inl ⟨_, rfl⟩

end Response

/-! ## Sessions -/

namespace Session

variable (s : Session) (timestamp : UInt32) (id? : Option UInt32)

/-- A reply leaves the token. -/
@[simp] theorem token_observeReply : (s.observeReply timestamp id?).token = s.token := by
  cases id? <;> rfl

/-- A reply leaves the device's id. -/
@[simp] theorem deviceId?_observeReply :
    (s.observeReply timestamp id?).deviceId? = s.deviceId? := by
  cases id? <;> rfl

/-- A reply moves the clock to its own. -/
@[simp] theorem lastTimestamp_observeReply :
    (s.observeReply timestamp id?).lastTimestamp = timestamp := by
  cases id? <;> rfl

/-- A reply has the counter adopt its id, if it has one. -/
@[simp] theorem sequence_observeReply :
    (s.observeReply timestamp id?).sequence = id?.elim s.sequence s.sequence.observe := by
  cases id? <;> rfl

end Session

/-! ## Replies -/

/-- What can come of a reply in a session: the end of its attempt, and the session after it. -/
inductive Judged (s : Session) (address method : String) (reply : Octets) :
    Verdict → Session → Prop
  /-- It carries another digest than the token gives. -/
  | forged (expected received : String)
      (hread : Frame.decode reply s.token = .error (.checksumMismatch expected received)) :
      Judged s address method reply (.fatal (.invalidToken address)) s
  /-- It is malformed. -/
  | malformed (e : ProtocolError) (hread : Frame.decode reply s.token = .error e)
      (he : e.isMalformed = true) : Judged s address method reply (.fatal (.protocol e)) s
  /-- It has no body. -/
  | greeting (header : Header) (hread : Frame.decode reply s.token = .ok ⟨header, none⟩) :
      Judged s address method reply (.fatal (.invalidResponse (.handshake method))) s
  /-- Its body is no response. -/
  | unfit (header : Header) (body : Json) (error : Json.Error)
      (hread : Frame.decode reply s.token = .ok ⟨header, some body⟩)
      (hbody : Response.ofJson body = .error (.payload error)) :
      Judged s address method reply (.fatal (.protocol (.payload error))) s
  /-- Its body is a response. -/
  | usable (header : Header) (body : Json) (answer : Reply)
      (hread : Frame.decode reply s.token = .ok ⟨header, some body⟩)
      (hbody : Response.ofJson body = .ok ⟨Response.idOf body, answer⟩) :
      Judged s address method reply (.ofReply answer)
        (s.observeReply header.timestamp (Response.idOf body))

/-- A reply is judged in one of these ways. -/
theorem Session.judged (s : Session) (address method : String) (reply : Octets) :
    Judged s address method reply (s.judge address method reply).1
      (s.judge address method reply).2 := by
  unfold judge
  cases hread : Frame.decode reply s.token with
  | error e =>
    have hkind := (Frame.firstFault_of_decode reply s.token e hread).2.1.isMalformed_eq
    cases e with
    | checksumMismatch expected received => exact .forged expected received hread
    | frameTooShort _ _ | invalidMagic _ | lengthMismatch _ _ | decrypt | payload _ =>
      exact .malformed _ hread rfl
    | payloadTooLarge _ _ | invalidToken _ | sessionNotInitialized => cases hkind
  | ok frame =>
    obtain ⟨header, body?⟩ := frame
    cases body? with
    | none => exact .greeting header hread
    | some body =>
      dsimp only
      obtain ⟨answer, hbody⟩ | ⟨error, hbody⟩ := Response.ofJson_cases body
      · rw [hbody]
        exact .usable header body answer hread hbody
      · rw [hbody]
        exact .unfit header body error hread hbody

/-- Why a reply is of no use in a session. -/
inductive Unusable (token : Token) (reply : Octets) : Prop
  /-- It is no frame under the token. -/
  | unread (e : ProtocolError) (hread : Frame.decode reply token = .error e)
  /-- It is a header alone. -/
  | greeting (hgreeting : Frame.IsGreeting reply)
  /-- Its body is no response. -/
  | unfit (header : Header) (body : Json) (e : ProtocolError)
      (hread : Frame.decode reply token = .ok ⟨header, some body⟩)
      (hbody : Response.ofJson body = .error e)

/-- A header alone is read without a body. -/
theorem Frame.exists_decode_of_isGreeting {reply : Octets} (h : IsGreeting reply) (token : Token) :
    ∃ header, decode reply token = .ok ⟨header, none⟩ := by
  obtain ⟨header, hparse⟩ := exists_parse_of_isGreeting reply h
  exact ⟨header, (decode_eq_ok_none_iff reply token header).mpr ⟨h, hparse⟩⟩

/-- A frame whose body is a response is of use. -/
theorem not_unusable {token : Token} {reply : Octets} {header : Header} {body : Json}
    {response : Response} (hread : Frame.decode reply token = .ok ⟨header, some body⟩)
    (hbody : Response.ofJson body = .ok response) : ¬ Unusable token reply := by
  intro hreply
  cases hreply with
  | unread e hunread => simp [hread] at hunread
  | greeting hgreeting =>
    obtain ⟨header', hnone⟩ := Frame.exists_decode_of_isGreeting hgreeting token
    simp [hread] at hnone
  | unfit header' body' e hread' hbody' =>
    rw [hread] at hread'
    cases hread'
    simp [hbody] at hbody'

/-- A reply carries another digest than the token gives, and nothing is wrong with it before that. -/
def IsForged (token : Token) (reply : Octets) : Prop :=
  ∃ expected received, Frame.decode reply token = .error (.checksumMismatch expected received)

namespace Judged

variable {s after : Session} {address method : String} {reply : Octets} {verdict : Verdict}

/-- A reply that is of no use ends its call and leaves the session as it is. The error says whether
the reply is forged, a handshake, or neither. -/
theorem of_unusable (h : Judged s address method reply verdict after)
    (hreply : Unusable s.token reply) :
    after = s ∧ ∃ e, verdict = .fatal e ∧
      ((∃ address, e = .invalidToken address) ↔ IsForged s.token reply) ∧
      ((∃ fault, e = .invalidResponse fault) ↔ Frame.IsGreeting reply) ∧
      ((∃ error, e = .protocol error) ↔
        ¬ IsForged s.token reply ∧ ¬ Frame.IsGreeting reply) := by
  have hforged (frame : Frame) (hread : Frame.decode reply s.token = .ok frame) :
      ¬ IsForged s.token reply := by
    simp [IsForged, hread]
  cases h with
  | forged expected received hread =>
    have hforged : IsForged s.token reply := ⟨expected, received, hread⟩
    have hnone := (Frame.firstFault_of_decode reply s.token _ hread).1
    exact ⟨rfl, _, rfl, by simp [hforged, hnone]⟩
  | malformed e hread he =>
    have hforged : ¬ IsForged s.token reply := by
      intro ⟨expected, received, hread'⟩
      rw [hread] at hread'
      cases hread'
      cases he
    have hnone := (Frame.firstFault_of_decode reply s.token e hread).1
    exact ⟨rfl, _, rfl, by simp [hforged, hnone]⟩
  | greeting header hread =>
    have hnone := ((Frame.decode_eq_ok_none_iff reply s.token header).mp hread).1
    exact ⟨rfl, _, rfl, by simp [hforged _ hread, hnone]⟩
  | unfit header body error hread hbody =>
    have hnone : ¬ Frame.IsGreeting reply := by
      intro hgreeting
      obtain ⟨header', hnone⟩ := Frame.exists_decode_of_isGreeting hgreeting s.token
      simp [hread] at hnone
    exact ⟨rfl, _, rfl, by simp [hforged _ hread, hnone]⟩
  | usable header body answer hread hbody => exact absurd hreply (not_unusable hread hbody)

/-- A reply that is of use is authentic, and moves the clock to its own and the counter to its id if it
has one, and nothing else. -/
theorem of_not_unusable (h : Judged s address method reply verdict after)
    (hreply : ¬ Unusable s.token reply) :
    ∃ header body, Frame.decode reply s.token = .ok ⟨header, some body⟩ ∧
      Frame.digestOf reply s.token = Frame.carried reply ∧
      after.token = s.token ∧ after.deviceId? = s.deviceId? ∧
      after.lastTimestamp = header.timestamp ∧
      (∀ id : UInt32, body.get? "id" = some (.number (.integer id.toNat)) →
        after.sequence.current = id) ∧
      ((∀ id : UInt32, body.get? "id" ≠ some (.number (.integer id.toNat))) →
        after.sequence = s.sequence) := by
  cases h with
  | forged _ _ hread | malformed _ hread => exact absurd (.unread _ hread) hreply
  | greeting header hread =>
    have hgreeting := ((Frame.decode_eq_ok_none_iff reply s.token header).mp hread).1
    exact absurd (.greeting hgreeting) hreply
  | unfit header body error hread hbody =>
    exact absurd (.unfit header body _ hread hbody) hreply
  | usable header body answer hread hbody =>
    obtain ⟨plain, hstarts, hsum, -⟩ :=
      (Frame.decode_eq_ok_some_iff reply s.token header body).mp hread
    have hdigest : Frame.digestOf reply s.token = Frame.carried reply := by
      rw [Frame.digestOf_of_starts hstarts, Frame.carried_of_starts hstarts, hsum]
    refine ⟨header, body, hread, hdigest, ?_⟩
    simp only [ne_eq, ← Response.idOf_eq_some_iff]
    cases Response.idOf body with
    | none => simp
    | some id => simp [SequenceId.observe]

end Judged

/-! ## Attempts -/

namespace Line

variable {σ α : Type}

/-- Notes leave the state of the transport as it is. -/
@[simp] theorem state_noteAll (l : Line σ) (notes : List Note) :
    (l.noteAll notes).state = l.state := by
  induction notes generalizing l with
  | nil => rfl
  | cons n notes ih => exact ih (l.record (.note n))

/-- An operation leaves the state that its reaction says. -/
@[simp] theorem state_after (l : Line σ) (r : Reaction σ α) (operation : Wire) :
    (l.after r operation).state = r.state :=
  state_noteAll _ r.notes

end Line

namespace Transport

variable {σ : Type}

/-- The journal plays no part in what comes of a datagram. -/
theorem ask_congr (t : Transport σ) (data : Octets) (timeout : Millis) {l l' : Line σ}
    (h : l.state = l'.state) : (t.ask data timeout l).1 = (t.ask data timeout l').1 := by
  unfold ask
  dsimp only
  rw [Line.state_after, Line.state_after, h]
  cases (t.send data l'.state).answer with
  | error e => rfl
  | ok u => rfl

/-- The journal plays no part in what an exchange gives. -/
theorem exchange_congr (t : Transport σ) (data : Octets) (timeout : Millis) {l l' : Line σ}
    (h : l.state = l'.state) : (t.exchange data timeout l).1 = (t.exchange data timeout l').1 := by
  unfold exchange
  dsimp only
  rw [h]
  cases (t.connect l'.state).answer with
  | error e => rfl
  | ok u =>
    refine t.ask_congr data timeout ?_
    rw [Line.state_after, Line.state_after]

/-- A transport to a peer that answers every datagram by a rule. Its state is the datagram sent
last. -/
def answering (answer : Octets → Except TransportError Octets) : Transport Octets where
  connect last := ⟨.ok (), last, []⟩
  send data _ := ⟨.ok (), data, []⟩
  receive _ last := ⟨answer last, last, []⟩
  disconnect last := ⟨.ok (), last, []⟩
  remote _ := "device"

end Transport

namespace Device

variable {σ : Type}

/-- An attempt whose exchange gives a reply ends as the reply is judged. -/
theorem exists_attempt_judged (d : Device σ) (request : Request) (deviceId : UInt32)
    (frame reply : Octets) (hid : d.session.deviceId? = some deviceId)
    (hframe : Frame.encode request deviceId d.session.nextTimestamp d.session.token = .ok frame)
    (hreply : (d.transport.exchange frame d.config.timeout d.line).1 = .ok reply) :
    ∃ address, Judged d.session address request.method reply (d.attempt request).1
      (d.attempt request).2.session := by
  unfold attempt Session.deviceId
  rw [hid]
  dsimp only
  rw [hframe]
  dsimp only
  generalize Frame.encodeNotes request deviceId d.session.nextTimestamp d.session.token = notes
  have hstate : ((d.noteAll notes).note (.requestSent d.remote request)).line.state =
      d.line.state :=
    d.line.state_noteAll notes
  have hexchange := (d.transport.exchange_congr frame d.config.timeout hstate).trans hreply
  obtain ⟨sent, hsent, htransport, hsession, hconfig⟩ : ∃ sent : Device σ,
      (d.noteAll notes).note (.requestSent d.remote request) = sent ∧
        sent.transport = d.transport ∧ sent.session = d.session ∧ sent.config = d.config :=
    ⟨_, rfl, rfl, rfl, rfl⟩
  rw [hsent] at hexchange ⊢
  rw [htransport, hsession, hconfig]
  generalize d.transport.exchange frame d.config.timeout sent.line = exchanged at hexchange ⊢
  obtain ⟨answer, line⟩ := exchanged
  cases hexchange
  exact ⟨_, d.session.judged _ request.method reply⟩

/-- An attempt that ends in an error that no retry cures ends its call, however many retries are
left. -/
theorem sendLoop_of_fatal (start d : Device σ) (request : Request) (e : DeviceError)
    (method : String) (params : Json) (extra : List (String × Json)) (retries : Nat) (due : Bool)
    (made : Nat) (hready : (start.prepare due).1 = .ok ())
    (hrequest : (start.prepare due).2.nextRequest method params extra = (request, d))
    (hverdict : (d.attempt request).1 = .fatal e) :
    sendLoop method params extra retries due made start =
      (.error e, (d.attempt request).2.record (.attempt request (.fatal e))) := by
  have hprepare : start.prepare due = (.ok (), (start.prepare due).2) := Prod.ext hready rfl
  rw [sendLoop, hprepare]
  dsimp only
  rw [hrequest]
  dsimp only
  rw [hverdict]

/-- A reply that is of no use to an attempt, since it is no frame under the token, is a handshake or
has a body that is no response, ends the call in an error that tells a forged reply from a
handshake and both from the rest, and leaves the session as it was. A reply that is of use, as every
one that moves the session, carries the digest that the token gives, and moves the clock to its own,
and the counter to its id if its body has an integer of 32 bits for one. -/
theorem attempt_by_reply (d : Device σ) (request : Request) (deviceId : UInt32)
    (frame reply : Octets) (hid : d.session.deviceId? = some deviceId)
    (hframe : Frame.encode request deviceId d.session.nextTimestamp d.session.token = .ok frame)
    (hreply : (d.transport.exchange frame d.config.timeout d.line).1 = .ok reply) :
    (Unusable d.session.token reply →
      (d.attempt request).2.session = d.session ∧ ∃ e, (d.attempt request).1 = .fatal e ∧
        ((∃ address, e = .invalidToken address) ↔ IsForged d.session.token reply) ∧
        ((∃ fault, e = .invalidResponse fault) ↔ Frame.IsGreeting reply) ∧
        ((∃ error, e = .protocol error) ↔
          ¬ IsForged d.session.token reply ∧ ¬ Frame.IsGreeting reply) ∧
        ∀ (start : Device σ) (method : String) (params : Json) (extra : List (String × Json))
          (retries : Nat) (due : Bool) (made : Nat),
          (start.prepare due).1 = .ok () →
          (start.prepare due).2.nextRequest method params extra = (request, d) →
          sendLoop method params extra retries due made start =
            (.error e, (d.attempt request).2.record (.attempt request (.fatal e)))) ∧
      (¬ Unusable d.session.token reply ∨ (d.attempt request).2.session ≠ d.session →
        ∃ header body, Frame.decode reply d.session.token = .ok ⟨header, some body⟩ ∧
          Frame.digestOf reply d.session.token = Frame.carried reply ∧
          (d.attempt request).2.session.token = d.session.token ∧
          (d.attempt request).2.session.deviceId? = d.session.deviceId? ∧
          (d.attempt request).2.session.lastTimestamp = header.timestamp ∧
          (∀ id : UInt32, body.get? "id" = some (.number (.integer id.toNat)) →
            (d.attempt request).2.session.sequence.current = id) ∧
          ((∀ id : UInt32, body.get? "id" ≠ some (.number (.integer id.toNat))) →
            (d.attempt request).2.session.sequence = d.session.sequence)) := by
  obtain ⟨address, hjudged⟩ := d.exists_attempt_judged request deviceId frame reply hid hframe hreply
  refine ⟨?_, ?_⟩
  · intro hunusable
    obtain ⟨hsession, e, hverdict, hforged, hgreeting, hrest⟩ := hjudged.of_unusable hunusable
    refine ⟨hsession, e, hverdict, hforged, hgreeting, hrest, ?_⟩
    intro start method params extra retries due made hready hrequest
    exact sendLoop_of_fatal start d request e method params extra retries due made hready hrequest
      hverdict
  · intro huseful
    have husable : ¬ Unusable d.session.token reply := by
      intro hunusable
      obtain hnot | hmoved := huseful
      · exact hnot hunusable
      · exact hmoved (hjudged.of_unusable hunusable).1
    exact hjudged.of_not_unusable husable

/-- A client in a session with device 7, whose clock was 41, that gets the same reply to everything. -/
def repliedTo (reply : Octets) : Device Octets :=
  ⟨.answering fun _ => .ok reply, ⟨[], []⟩, (Session.new Token.zero).establish 7 41, .default⟩

/-- A response with an id. -/
def numberedResponse : Json := .object [("id", .int 5), ("result", .array [])]

/-- A response in a frame of device 9 with its clock. -/
def numberedReply : Octets :=
  Frame.wrap 0 9 50 Token.zero (Token.zero.encrypt numberedResponse.octets)

/-- A handshake in answer to a request leaves the session as it is. A response moves the clock and the
counter, but not the device's id, though its frame names another device. -/
theorem attempt_by_greeting_and_response :
    (∃ fault,
        ((repliedTo Frame.handshake).attempt (Request.new 1 "get_prop" (.array []))).1 =
          .fatal (.invalidResponse fault)) ∧
      ((repliedTo Frame.handshake).attempt (Request.new 1 "get_prop" (.array []))).2.session =
        ⟨Token.zero, some 7, 41, .start⟩ ∧
      ((repliedTo numberedReply).attempt (Request.new 1 "get_prop" (.array []))).2.session =
        ⟨Token.zero, some 7, 50, ⟨5⟩⟩ := by
  have hframe := Frame.encode_of_length_le (Request.new 1 "get_prop" (.array [])) _ 7 42 Token.zero
    rfl (by decide)
  have hread := Frame.decode_wrap 0 9 50 Token.zero numberedResponse.octets _
    (Body.parse_octets numberedResponse
      (by simp [numberedResponse, Json.Integral, Json.IntegralMembers, Json.IntegralItems])
      (by decide))
    ((Frame.size_le_iff Token.zero numberedResponse.octets).mpr (by decide))
  have hgreeting : Frame.IsGreeting Frame.handshake := ⟨rfl, rfl⟩
  have huseful : ¬ Unusable Token.zero numberedReply := not_unusable hread rfl
  obtain ⟨hkept, e, hverdict, -, hfault, -⟩ :=
    (attempt_by_reply (repliedTo Frame.handshake) (Request.new 1 "get_prop" (.array [])) 7 _
      Frame.handshake rfl hframe rfl).1 (.greeting hgreeting)
  obtain ⟨header, body, hbody, -, htoken, hdevice, hclock, hcounter, -⟩ :=
    (attempt_by_reply (repliedTo numberedReply) (Request.new 1 "get_prop" (.array [])) 7 _
      numberedReply rfl hframe rfl).2 (Or.inl huseful)
  obtain ⟨fault, rfl⟩ := hfault.mpr hgreeting
  refine ⟨⟨fault, hverdict⟩, hkept, ?_⟩
  have hsame := hread.symm.trans hbody
  simp only [Except.ok.injEq, Frame.mk.injEq, Option.some.injEq] at hsame
  obtain ⟨rfl, rfl⟩ := hsame
  have hid := hcounter 5 rfl
  generalize ((repliedTo numberedReply).attempt _).2.session = after at *
  obtain ⟨token, deviceId?, clock, current⟩ := after
  rw [Session.mk.injEq]
  exact ⟨htoken, hdevice, hclock, congrArg SequenceId.mk hid⟩

end Device

end Appliance
