import Appliance.Device

/-!
# What is done on a line

A journal holds deeds and notes. What follows from a journal never depends on the notes, so that
the laws here are about the deeds alone: what one exchange does, what a handshake does, and what a
number of handshakes does, whatever the transport answers.

Deeds are kept as a journal is, the latest first.
-/

namespace Appliance

/-- An entry that only says something. -/
def Entry.isNote : Entry → Bool
  | .note _ => true
  | .wire _ | .handshake _ | .command _ _ _ | .attempt _ _ => false

/-- The entry is an operation of a transport. -/
def Entry.isWire : Entry → Bool
  | .wire _ => true
  | .handshake _ | .command _ _ _ | .attempt _ _ | .note _ => false

/-- The entry is the end of a handshake. -/
def Entry.isHandshake : Entry → Bool
  | .handshake _ => true
  | .wire _ | .command _ _ _ | .attempt _ _ | .note _ => false

/-- The deeds of a journal, the latest first. -/
def deeds (journal : List Entry) : List Entry := journal.filter fun e => !e.isNote

namespace Line

variable {σ α : Type}

/-- The deeds on a line, the latest first. -/
def deeds (l : Line σ) : List Entry := Appliance.deeds l.journal

/-- A note is no deed. -/
@[simp] theorem deeds_record_note (l : Line σ) (n : Note) : (l.record (.note n)).deeds = l.deeds :=
  rfl

/-- Whatever else is recorded is a deed. -/
theorem deeds_record (l : Line σ) (e : Entry) (h : e.isNote = false) :
    (l.record e).deeds = e :: l.deeds := by
  rw [deeds, record, Appliance.deeds, List.filter_cons_of_pos (by simp [h])]
  rfl

/-- Notes are no deeds. -/
@[simp] theorem deeds_noteAll (l : Line σ) (notes : List Note) :
    (l.noteAll notes).deeds = l.deeds := by
  induction notes generalizing l with
  | nil => rfl
  | cons n notes ih => exact ih (l.record (.note n))

/-- An operation of a transport is a deed. -/
@[simp] theorem deeds_after (l : Line σ) (r : Reaction σ α) (operation : Wire) :
    (l.after r operation).deeds = .wire operation :: l.deeds := by
  rw [after, deeds_record _ _ rfl, deeds_noteAll]
  rfl

end Line

/-! ## Exchanges -/

/-- What an exchange does, and the reply it gives. -/
inductive Exchanged (data : Octets) (timeout : Millis) :
    Except TransportError Octets → List Entry → Prop
  /-- No connection could be opened. -/
  | unconnected (e : TransportError) :
      Exchanged data timeout (.error e) [.wire (.connect (.error e))]
  /-- The datagram could not be sent. -/
  | unsent (e : TransportError) (closed : Except TransportError Unit) :
      Exchanged data timeout (.error e)
        [.wire (.disconnect closed), .wire (.send data (.error e)), .wire (.connect (.ok ()))]
  /-- A reply was waited for. -/
  | asked (reply : Except TransportError Octets) (closed : Except TransportError Unit) :
      Exchanged data timeout reply
        [.wire (.disconnect closed), .wire (.receive timeout reply), .wire (.send data (.ok ())),
          .wire (.connect (.ok ()))]

/-- All that an exchange does are operations of the transport. -/
theorem Exchanged.isWire {data : Octets} {timeout : Millis}
    {reply : Except TransportError Octets} {done : List Entry}
    (h : Exchanged data timeout reply done) : ∀ e ∈ done, e.isWire = true := by
  cases h <;> simp [Entry.isWire]

namespace Transport

variable {σ : Type}

/-- Asking is a datagram that could not be sent, or one that was and a reply waited for. -/
theorem deeds_ask (t : Transport σ) (data : Octets) (timeout : Millis) (l : Line σ) :
    (∃ e, (t.ask data timeout l).1 = .error e ∧
        (t.ask data timeout l).2.deeds = .wire (.send data (.error e)) :: l.deeds) ∨
      (t.ask data timeout l).2.deeds =
        .wire (.receive timeout (t.ask data timeout l).1) ::
          .wire (.send data (.ok ())) :: l.deeds := by
  unfold ask
  dsimp only
  cases (t.send data l.state).answer with
  | error e => exact Or.inl ⟨e, rfl, Line.deeds_after _ _ _⟩
  | ok u =>
    right
    dsimp only
    rw [Line.deeds_after, Line.deeds_after]

/-- Closing is one deed. -/
theorem exists_deeds_close (t : Transport σ) (l : Line σ) :
    ∃ closed, (t.close l).deeds = .wire (.disconnect closed) :: l.deeds := by
  refine ⟨(t.disconnect l.state).answer, ?_⟩
  unfold close
  dsimp only
  split
  · rw [Line.deeds_after]
  · rw [Line.deeds_record_note, Line.deeds_after]

/-- An exchange opens a connection, and whatever comes of the datagram, closes it. -/
theorem exists_exchanged (t : Transport σ) (data : Octets) (timeout : Millis) (l : Line σ) :
    ∃ done, Exchanged data timeout (t.exchange data timeout l).1 done ∧
      (t.exchange data timeout l).2.deeds = done ++ l.deeds := by
  unfold exchange
  dsimp only
  have hopen := Line.deeds_after l (t.connect l.state) (.connect (t.connect l.state).answer)
  cases hconnect : (t.connect l.state).answer with
  | error e =>
    rw [hconnect] at hopen
    exact ⟨_, .unconnected e, hopen⟩
  | ok u =>
    dsimp only
    rw [hconnect] at hopen
    generalize l.after (t.connect l.state) (.connect (.ok u)) = opened at hopen
    obtain ⟨closed, hclosed⟩ := t.exists_deeds_close (t.ask data timeout opened).2
    rw [hclosed]
    rcases t.deeds_ask data timeout opened with ⟨e, he, hask⟩ | hask
    · rw [hask, hopen, he]
      exact ⟨_, .unsent e closed, rfl⟩
    · rw [hask, hopen]
      exact ⟨_, .asked _ closed, rfl⟩

/-- A handshake is an exchange, and ends with the header of its reply. -/
theorem exists_deeds_handshake (t : Transport σ) (timeout : Millis) (l : Line σ) :
    ∃ done, Exchanged Frame.handshake timeout (t.exchange Frame.handshake timeout l).1 done ∧
      (t.handshake timeout l).2.deeds =
        .handshake (headerOfReply (t.exchange Frame.handshake timeout l).1) ::
          (done ++ l.deeds) := by
  obtain ⟨done, hdone, hdeeds⟩ := t.exists_exchanged Frame.handshake timeout l
  refine ⟨done, hdone, ?_⟩
  unfold handshake
  dsimp only
  rw [Line.deeds_record _ _ rfl]
  cases headerOfReply (t.exchange Frame.handshake timeout l).1 with
  | ok header =>
    dsimp only
    rw [Line.deeds_record_note, hdeeds]
  | error e =>
    dsimp only
    rw [hdeeds]

/-- A handshake is an exchange and the header of its reply. -/
theorem exists_exchanged_handshake (t : Transport σ) (timeout : Millis) (l : Line σ) :
    ∃ reply done, Exchanged Frame.handshake timeout reply done ∧
      (t.handshake timeout l).1 = headerOfReply reply ∧
      (t.handshake timeout l).2.deeds = .handshake (headerOfReply reply) :: (done ++ l.deeds) := by
  obtain ⟨done, hdone, hdeeds⟩ := t.exists_deeds_handshake timeout l
  exact ⟨_, done, hdone, rfl, hdeeds⟩

end Transport

/-! ## Handshakes -/

/-- What a number of handshakes at most does until one is answered, and the header of the answer if
there is one. -/
inductive Greeting (timeout : Millis) : Nat → Option Header → List Entry → Prop
  /-- No handshake is left. -/
  | unanswered : Greeting timeout 0 none []
  /-- A handshake is answered. -/
  | answered (left : Nat) (reply : Except TransportError Octets) (done : List Entry)
      (header : Header) (hdone : Exchanged Frame.handshake timeout reply done)
      (hreply : Transport.headerOfReply reply = .ok header) :
      Greeting timeout (left + 1) (some header) (.handshake (.ok header) :: done)
  /-- A handshake is not answered, and the ones left are tried. -/
  | missed (left : Nat) (reply : Except TransportError Octets) (done : List Entry)
      (e : DeviceError) (header? : Option Header) (later : List Entry)
      (hdone : Exchanged Frame.handshake timeout reply done)
      (hreply : Transport.headerOfReply reply = .error e)
      (hlater : Greeting timeout left header? later) :
      Greeting timeout (left + 1) header? (later ++ .handshake (.error e) :: done)

/-- All that a greeting does are operations of the transport and ends of handshakes. -/
theorem Greeting.isWire_or_isHandshake {timeout : Millis} {attempts : Nat}
    {header? : Option Header} {done : List Entry} (h : Greeting timeout attempts header? done) :
    ∀ e ∈ done, e.isWire = true ∨ e.isHandshake = true := by
  induction h with
  | unanswered => exact fun e he => absurd he List.not_mem_nil
  | answered left reply done header hdone hreply =>
    intro e he
    rcases List.mem_cons.mp he with rfl | he
    · exact Or.inr rfl
    · exact Or.inl (hdone.isWire e he)
  | missed left reply done e' header? later hdone hreply hlater ih =>
    intro e he
    rcases List.mem_append.mp he with he | he
    · exact ih e he
    · rcases List.mem_cons.mp he with rfl | he
      · exact Or.inr rfl
      · exact Or.inl (hdone.isWire e he)

namespace Device

variable {σ : Type}

/-- The deeds of a device's journal, the latest first. -/
def deeds (d : Device σ) : List Entry := d.line.deeds

/-- A note is no deed. -/
@[simp] theorem deeds_note (d : Device σ) (n : Note) : (d.note n).deeds = d.deeds := rfl

/-- Notes are no deeds. -/
@[simp] theorem deeds_noteAll (d : Device σ) (notes : List Note) :
    (d.noteAll notes).deeds = d.deeds := Line.deeds_noteAll d.line notes

/-- Whatever else is recorded is a deed. -/
theorem deeds_record (d : Device σ) (e : Entry) (h : e.isNote = false) :
    (d.record e).deeds = e :: d.deeds := Line.deeds_record d.line e h

/-- The session that a number of handshakes leaves. -/
def greeted (s : Session) : Option Header → Session
  | some header => s.establish header.deviceId header.timestamp
  | none => s.invalidate

/-- A number of handshakes is a greeting, and leaves the session and the result that its answer
gives. -/
theorem exists_greeting_handshakeLoop (total left : Nat) (d : Device σ) :
    ∃ header? done address, Greeting d.config.timeout left header? done ∧
      (handshakeLoop total left d).1 = header?.elim (.error (.unreachable address total)) .ok ∧
      (handshakeLoop total left d).2.deeds = done ++ d.deeds ∧
      (handshakeLoop total left d).2.session = greeted d.session header? ∧
      (handshakeLoop total left d).2.config = d.config := by
  induction left generalizing d with
  | zero => exact ⟨none, [], d.remote, .unanswered, rfl, rfl, rfl, rfl⟩
  | succ left ih =>
    obtain ⟨reply, done, hdone, hresult, hdeeds⟩ :=
      d.transport.exists_exchanged_handshake d.config.timeout d.line
    unfold handshakeLoop
    dsimp only
    rw [hresult]
    cases hreply : Transport.headerOfReply reply with
    | ok header =>
      rw [hreply] at hdeeds
      refine ⟨some header, _, d.remote, .answered left reply done header hdone hreply, rfl, ?_, rfl,
        rfl⟩
      dsimp only
      unfold establish
      rw [deeds_note]
      exact (Line.deeds_noteAll _ _).trans hdeeds
    | error e =>
      rw [hreply] at hdeeds
      dsimp only
      generalize (d.transport.handshake d.config.timeout d.line).2 = line at hdeeds ⊢
      obtain ⟨header?, later, address, hlater, hfound, hlaterDeeds, hsession, hconfig⟩ :=
        ih (note ⟨d.transport, line, d.session, d.config⟩ (.handshakeFailed (total - left) total
          (remote ⟨d.transport, line, d.session, d.config⟩) e))
      refine ⟨header?, _, address, .missed left reply done e header? later hdone hreply hlater,
        hfound, ?_, hsession, hconfig⟩
      rw [hlaterDeeds, deeds_note, List.append_assoc]
      exact congrArg (later ++ ·) hdeeds

end Device

end Appliance
