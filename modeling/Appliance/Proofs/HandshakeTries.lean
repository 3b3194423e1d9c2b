import Appliance.Proofs.ClosingOutcomes

/-!
# Handshakes tried in a row

A handshake is tried again until a reply comes whose header can be read, or until the settings allow
no more tries. Only the header counts: a connection that cannot be opened, a datagram that cannot be
sent, silence, and octets that start no frame are all one more try in vain.

The replies that decide are those of the transport itself, exchange after exchange from the state in
which the call finds it. Nothing is assumed of them.
-/

namespace Appliance

/-- A reply answers a handshake with a header: it came, and the header can be read from it. -/
def Answers (reply : Except TransportError Octets) (header : Header) : Prop :=
  ∃ datagram, reply = .ok datagram ∧ Header.parse datagram = .ok header

/-- A reply answers no handshake. -/
def Unanswered (reply : Except TransportError Octets) : Prop := ∀ header, ¬ Answers reply header

namespace Transport

variable {σ : Type}

/-- A header is got from a reply that answers, and from no other. -/
theorem headerOfReply_eq_ok_iff (reply : Except TransportError Octets) (header : Header) :
    headerOfReply reply = .ok header ↔ Answers reply header := by
  cases reply with
  | error e => simp [headerOfReply, Answers]
  | ok datagram =>
    cases hparse : Header.parse datagram <;> simp [headerOfReply, Answers, hparse]

/-- What gives an error is a reply that does not answer. -/
theorem unanswered_of_headerOfReply {reply : Except TransportError Octets} {e : DeviceError}
    (h : headerOfReply reply = .error e) : Unanswered reply := by
  intro header hanswers
  rw [(headerOfReply_eq_ok_iff reply header).mpr hanswers] at h
  cases h

/-! ## The replies of a transport -/

/-- The journal plays no part in the state that a datagram leaves. -/
theorem state_ask_congr (t : Transport σ) (data : Octets) (timeout : Millis) {l l' : Line σ}
    (h : l.state = l'.state) :
    (t.ask data timeout l).2.state = (t.ask data timeout l').2.state := by
  unfold ask
  dsimp only
  rw [h]
  cases (t.send data l'.state).answer with
  | error e =>
    dsimp only
    rw [Line.state_after, Line.state_after]
  | ok u =>
    dsimp only
    rw [Line.state_after, Line.state_after, Line.state_after, Line.state_after]

/-- Closing leaves the state that the operation says. -/
theorem state_close (t : Transport σ) (l : Line σ) :
    (t.close l).state = (t.disconnect l.state).state := by
  unfold close
  dsimp only
  cases (t.disconnect l.state).answer with
  | error e => exact l.state_after (t.disconnect l.state) (.disconnect (.error e))
  | ok u => exact l.state_after (t.disconnect l.state) (.disconnect (.ok u))

/-- The journal plays no part in the state that an exchange leaves. -/
theorem state_exchange_congr (t : Transport σ) (data : Octets) (timeout : Millis) {l l' : Line σ}
    (h : l.state = l'.state) :
    (t.exchange data timeout l).2.state = (t.exchange data timeout l').2.state := by
  unfold exchange
  dsimp only
  rw [h]
  cases (t.connect l'.state).answer with
  | error e =>
    dsimp only
    rw [Line.state_after, Line.state_after]
  | ok u =>
    dsimp only
    rw [state_close, state_close]
    refine congrArg (fun state => (t.disconnect state).state) (t.state_ask_congr data timeout ?_)
    rw [Line.state_after, Line.state_after]

/-- A handshake leaves the state that its exchange leaves. -/
theorem state_handshake (t : Transport σ) (timeout : Millis) (l : Line σ) :
    (t.handshake timeout l).2.state = (t.exchange Frame.handshake timeout l).2.state := by
  unfold handshake
  dsimp only
  cases headerOfReply (t.exchange Frame.handshake timeout l).1 <;> rfl

/-- The replies that a number of handshakes get, one exchange after another from a state on. -/
def handshakeReplies (t : Transport σ) (timeout : Millis) :
    Nat → σ → List (Except TransportError Octets)
  | 0, _ => []
  | n + 1, state =>
    (t.exchange Frame.handshake timeout ⟨state, []⟩).1 ::
      t.handshakeReplies timeout n (t.exchange Frame.handshake timeout ⟨state, []⟩).2.state

/-- The first reply is that of an exchange on any line in the state, and the others follow from the
state after it. -/
theorem handshakeReplies_succ (t : Transport σ) (timeout : Millis) (n : Nat) (l : Line σ) :
    t.handshakeReplies timeout (n + 1) l.state =
      (t.exchange Frame.handshake timeout l).1 ::
        t.handshakeReplies timeout n (t.handshake timeout l).2.state := by
  have hstate : (⟨l.state, []⟩ : Line σ).state = l.state := rfl
  rw [handshakeReplies, t.exchange_congr Frame.handshake timeout hstate,
    t.state_exchange_congr Frame.handshake timeout hstate, state_handshake]

end Transport

/-! ## Tries -/

/-- The deeds of handshakes tried one after another, the latest first, by their replies, the earliest
first. -/
inductive Tried (timeout : Millis) : List (Except TransportError Octets) → List Entry → Prop
  /-- Nothing has been tried. -/
  | nothing : Tried timeout [] []
  /-- A handshake is tried, and others after it. -/
  | next (reply : Except TransportError Octets) (replies : List (Except TransportError Octets))
      (done later : List Entry) (hdone : Exchanged Frame.handshake timeout reply done)
      (hlater : Tried timeout replies later) :
      Tried timeout (reply :: replies)
        (later ++ .handshake (Transport.headerOfReply reply) :: done)

namespace Tried

variable {timeout : Millis} {replies : List (Except TransportError Octets)} {done : List Entry}

/-- Every try is one exchange. -/
theorem exchanges_eq (h : Tried timeout replies done) : exchanges done = replies.length := by
  induction h with
  | nothing => rfl
  | next reply replies done later hdone hlater ih =>
    rw [exchanges_append, exchanges_handshake, ih, hdone.exchanges_eq]
    rfl

/-- Whatever is sent is the handshake. -/
theorem eq_handshake_of_send (h : Tried timeout replies done) (data : Octets)
    (answer : Except TransportError Unit) (hmem : .wire (.send data answer) ∈ done) :
    data = Frame.handshake := by
  induction h with
  | nothing => cases hmem
  | next reply replies done later hdone hlater ih =>
    rw [List.mem_append, List.mem_cons] at hmem
    obtain hmem | heq | hmem := hmem
    · exact ih hmem
    · cases heq
    · cases hdone <;> simp at hmem
      · exact hmem.1
      · exact hmem.1

end Tried

/-- How handshakes end of which a number may be tried, by their replies: at the first one that
answers, or, if none does, when as many have been tried. -/
inductive FirstAnswer (most : Nat) : List (Except TransportError Octets) → Option Header → Prop
  | answered (missed : List (Except TransportError Octets)) (reply : Except TransportError Octets)
      (header : Header) (hlength : missed.length < most) (hmissed : ∀ r ∈ missed, Unanswered r)
      (hreply : Answers reply header) : FirstAnswer most (missed ++ [reply]) (some header)
  | unanswered (missed : List (Except TransportError Octets)) (hlength : missed.length = most)
      (hmissed : ∀ r ∈ missed, Unanswered r) : FirstAnswer most missed none

/-- A reply that does not answer leaves it to the others, of which one less may be tried. -/
theorem FirstAnswer.cons {most : Nat} {reply : Except TransportError Octets}
    {replies : List (Except TransportError Octets)} {header? : Option Header}
    (hreply : Unanswered reply) (h : FirstAnswer most replies header?) :
    FirstAnswer (most + 1) (reply :: replies) header? := by
  cases h with
  | answered missed last header hlength hmissed hlast =>
    exact .answered (reply :: missed) last header (Nat.succ_lt_succ hlength)
      (List.forall_mem_cons.mpr ⟨hreply, hmissed⟩) hlast
  | unanswered missed hlength hmissed =>
    exact .unanswered (reply :: replies) (congrArg (· + 1) hlength)
      (List.forall_mem_cons.mpr ⟨hreply, hmissed⟩)

namespace Device

variable {σ : Type}

/-- Handshakes of which some are left are tried up to the first answer, and leave the session and the
result that it gives. -/
theorem exists_tried_handshakeLoop (total left : Nat) (d : Device σ) :
    ∃ replies done header?, FirstAnswer left replies header? ∧
      replies <+: d.transport.handshakeReplies d.config.timeout left d.line.state ∧
      Tried d.config.timeout replies done ∧
      (handshakeLoop total left d).2.deeds = done ++ d.deeds ∧
      (handshakeLoop total left d).2.session = greeted d.session header? ∧
      (handshakeLoop total left d).1 =
        header?.elim (.error (.unreachable (handshakeLoop total left d).2.remote total)) .ok := by
  induction left generalizing d with
  | zero => exact ⟨[], [], none, .unanswered [] rfl nofun, List.nil_prefix, .nothing, rfl, rfl, rfl⟩
  | succ left ih =>
    obtain ⟨done, hdone, hdeeds⟩ := d.transport.exists_deeds_handshake d.config.timeout d.line
    have hresult : d.shake.1 = Transport.headerOfReply
        (d.transport.exchange Frame.handshake d.config.timeout d.line).1 := rfl
    have hafter : d.shake.2.deeds = .handshake d.shake.1 :: (done ++ d.deeds) := hdeeds
    have hkept : d.shake.2.transport = d.transport ∧ d.shake.2.config = d.config ∧
        d.shake.2.session = d.session := ⟨rfl, rfl, rfl⟩
    have hreplies := d.transport.handshakeReplies_succ d.config.timeout left d.line
    have hstate : (d.transport.handshake d.config.timeout d.line).2.state =
        d.shake.2.line.state := rfl
    rw [handshakeLoop_succ, hreplies, hstate]
    beta_reduce
    generalize (d.transport.exchange Frame.handshake d.config.timeout d.line).1 = reply
      at hdone hresult ⊢
    generalize d.shake = shaken at hresult hafter hkept ⊢
    obtain ⟨result, after⟩ := shaken
    obtain ⟨htransport, hconfig, hsession⟩ := hkept
    dsimp only at hresult hafter htransport hconfig hsession ⊢
    subst hresult
    cases hheader : Transport.headerOfReply reply with
    | ok header =>
      have hanswers := (Transport.headerOfReply_eq_ok_iff reply header).mp hheader
      refine ⟨[reply], _, some header, .answered [] reply header (Nat.succ_pos left) nofun hanswers,
        List.prefix_append [reply] _, .next reply [] done [] hdone .nothing, ?_, ?_, rfl⟩
      · exact (deeds_establish after header).trans hafter
      · exact congrArg (greeted · (some header)) hsession
    | error e =>
      obtain ⟨replies, later, header?, hfirst, hprefix, htried, hlater, hlast, hfound⟩ :=
        ih (after.note (.handshakeFailed (total - left) total after.remote e))
      have hmissed := Transport.unanswered_of_headerOfReply hheader
      have hnoted : (after.note (.handshakeFailed (total - left) total after.remote e)).transport =
          d.transport ∧ (after.note (.handshakeFailed (total - left) total after.remote e)).config =
          d.config := ⟨htransport, hconfig⟩
      rw [hnoted.1, hnoted.2] at hprefix
      rw [hnoted.2] at htried
      refine ⟨reply :: replies, _, header?, hfirst.cons hmissed,
        List.cons_prefix_cons.mpr ⟨rfl, hprefix⟩, .next reply replies done later hdone htried, ?_, ?_,
        hfound⟩
      · refine hlater.trans ?_
        rw [deeds_note, hafter, List.append_assoc]
        rfl
      · exact hlast.trans (congrArg (greeted · header?) hsession)

/-- A session asked for is made by handshakes tried in a row: exchanges of the handshake with the
transport, up to the first whose reply has a header that can be read, and as many as the settings allow
at most, none counting as one. The answer gives the result, and the session takes its id and clock from
it. If no reply answers, all handshakes allowed have been tried, the device is unreachable, and the
session has no id and no clock left, whatever it had before. Neither touches the token or the counter of
ids. -/
theorem sendHandshake_until_answered (d : Device σ) :
    ∃ replies done,
      replies <+: d.transport.handshakeReplies d.config.timeout (max 1 d.config.handshakeAttempts)
        d.line.state ∧
      Tried d.config.timeout replies done ∧ d.sendHandshake.2.deeds = done ++ d.deeds ∧
      exchanges done = replies.length ∧
      replies.length ≤ max 1 d.config.handshakeAttempts ∧
      (∀ data answer, .wire (.send data answer) ∈ done → data = Frame.handshake) ∧
      Frame.handshake = [0x21, 0x31, 0x00, 0x20] ++ List.replicate 28 0xff ∧
      ((∃ missed reply header, replies = missed ++ [reply] ∧ (∀ r ∈ missed, Unanswered r) ∧
          Answers reply header ∧ d.sendHandshake.1 = .ok header ∧
          d.sendHandshake.2.session =
            ⟨d.session.token, some header.deviceId, header.timestamp, d.session.sequence⟩) ∨
        (replies.length = max 1 d.config.handshakeAttempts ∧ (∀ r ∈ replies, Unanswered r) ∧
          d.sendHandshake.1 =
            .error (.unreachable d.sendHandshake.2.remote (max 1 d.config.handshakeAttempts)) ∧
          d.sendHandshake.2.session = ⟨d.session.token, none, 0, d.session.sequence⟩)) := by
  obtain ⟨replies, done, header?, hfirst, hprefix, htried, hdeeds, hsession, hresult⟩ :=
    exists_tried_handshakeLoop (max 1 d.config.handshakeAttempts)
      (max 1 d.config.handshakeAttempts) d
  refine ⟨replies, done, hprefix, htried, hdeeds, htried.exchanges_eq, ?_,
    htried.eq_handshake_of_send, by decide, ?_⟩
  · cases hfirst with
    | answered missed reply header hlength _ _ =>
      rw [List.length_append]
      exact hlength
    | unanswered _ hlength _ => exact Nat.le_of_eq hlength
  · cases hfirst with
    | answered missed reply header _ hmissed hreply =>
      exact Or.inl ⟨missed, reply, header, rfl, hmissed, hreply, hresult, hsession⟩
    | unanswered _ hlength hmissed => exact Or.inr ⟨hlength, hmissed, hresult, hsession⟩

end Device

end Appliance
