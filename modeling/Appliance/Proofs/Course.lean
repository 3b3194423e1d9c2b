import Appliance.Proofs.Deeds

/-!
# The course of a call

What a call can do is one relation between the session before it, its result, the session after it
and its deeds, whatever the transport answers. Everything that holds of calls follows from it by
induction: a call either reaches no device, or makes its request once and ends, or makes it once and
goes on with one retry less.

The relation says which deeds follow each other and which session each of them is done in. It says
nothing of the notes, and nothing of the state of the transport.
-/

namespace Appliance

/-- The request that a call makes with an id. -/
def requestOf (method : String) (params : Json) (extra : List (String × Json)) (id : UInt32) :
    Request := (Request.new id method params).withExtra extra

namespace Verdict

/-- The result of a call that an attempt ends, if its end is one that ends calls. -/
def final? : Verdict → Option (Except DeviceError Json)
  | .success value => some (.ok value)
  | .fatal e => some (.error e)
  | .recoverable _ | .transport _ => none

/-- The error of a call whose last attempt could be made again, with the number of attempts. -/
def exhausted? (made : Nat) : Verdict → Option DeviceError
  | .recoverable report => some (.device report.code report.message)
  | .transport e => some (.noResponse made e)
  | .success _ | .fatal _ => none

/-- Whether a handshake is due before an attempt is made again, and in which session, after one that
left a session. -/
def again? (s : Session) : Verdict → Option (Bool × Session)
  | .recoverable _ => some (false, s)
  | .transport _ => some (true, (s.skipIds retryIdStride).invalidate)
  | .success _ | .fatal _ => none

end Verdict

/-! ## One attempt -/

/-- What one attempt to make a request in a session can do: its end, the session after it and its
deeds. -/
inductive Attempted (s : Session) (timeout : Millis) (request : Request) :
    Verdict → Session → List Entry → Prop
  /-- There has been no handshake. -/
  | unready (hid : s.deviceId? = none) :
      Attempted s timeout request (.fatal (.protocol .sessionNotInitialized)) s []
  /-- The request fits no frame. -/
  | unframed (deviceId : UInt32) (e : ProtocolError) (hid : s.deviceId? = some deviceId)
      (hframe : Frame.encode request deviceId s.nextTimestamp s.token = .error e) :
      Attempted s timeout request (.fatal (.protocol e)) s []
  /-- The exchange fails. -/
  | unanswered (deviceId : UInt32) (frame : Octets) (e : TransportError) (done : List Entry)
      (hid : s.deviceId? = some deviceId)
      (hframe : Frame.encode request deviceId s.nextTimestamp s.token = .ok frame)
      (hdone : Exchanged frame timeout (.error e) done) :
      Attempted s timeout request (.transport e) s done
  /-- A reply is judged. -/
  | answered (deviceId : UInt32) (frame reply : Octets) (done : List Entry) (address : String)
      (hid : s.deviceId? = some deviceId)
      (hframe : Frame.encode request deviceId s.nextTimestamp s.token = .ok frame)
      (hdone : Exchanged frame timeout (.ok reply) done) :
      Attempted s timeout request (s.judge address request.method reply).1
        (s.judge address request.method reply).2 done

/-- All that an attempt does before its end are operations of the transport. -/
theorem Attempted.isWire {s after : Session} {timeout : Millis} {request : Request}
    {verdict : Verdict} {done : List Entry}
    (h : Attempted s timeout request verdict after done) : ∀ e ∈ done, e.isWire = true := by
  cases h with
  | unready | unframed => exact fun e he => absurd he List.not_mem_nil
  | unanswered _ _ _ _ _ _ hdone => exact hdone.isWire
  | answered _ _ _ _ _ _ _ hdone => exact hdone.isWire

/-- The sessions in which a call can make its request, with what is done to get there: the one it
has, or the one that a handshake makes. -/
inductive Prepared (s : Session) (timeout : Millis) (attempts : Nat) (due : Bool) :
    Session → List Entry → Prop
  /-- No handshake is due and there is a session. -/
  | kept (hdue : due = false) (hready : s.isReady = true) :
      Prepared s timeout attempts due s []
  /-- A handshake is made and answered. -/
  | greeted (header : Header) (done : List Entry) (hdue : (due || !s.isReady) = true)
      (hdone : Greeting timeout attempts (some header) done) :
      Prepared s timeout attempts due (s.establish header.deviceId header.timestamp) done

/-- All that is done to get ready are operations of the transport and ends of handshakes. -/
theorem Prepared.isWire_or_isHandshake {s ready : Session} {timeout : Millis} {attempts : Nat}
    {due : Bool} {done : List Entry} (h : Prepared s timeout attempts due ready done) :
    ∀ e ∈ done, e.isWire = true ∨ e.isHandshake = true := by
  cases h with
  | kept => exact fun e he => absurd he List.not_mem_nil
  | greeted _ _ _ hdone => exact hdone.isWire_or_isHandshake

/-- What one turn of a call can do: getting ready, and one attempt at a request with the next id. -/
inductive Turn (timeout : Millis) (attempts : Nat) (method : String) (params : Json)
    (extra : List (String × Json)) (due : Bool) (s : Session) :
    Verdict → Session → List Entry → Prop
  | intro (ready after : Session) (before done : List Entry) (verdict : Verdict)
      (hbefore : Prepared s timeout attempts due ready before)
      (hdone : Attempted ready.nextId timeout
        (requestOf method params extra ready.nextId.currentId) verdict after done) :
      Turn timeout attempts method params extra due s verdict after
        (.attempt (requestOf method params extra ready.nextId.currentId) verdict ::
          (done ++ before))

/-- What a call can do from a session on, with some retries left and some attempts made: its result,
the session after it and its deeds. -/
inductive Course (timeout : Millis) (attempts : Nat) (method : String) (params : Json)
    (extra : List (String × Json)) :
    Nat → Bool → Nat → Session → Except DeviceError Json → Session → List Entry → Prop
  /-- No handshake is answered. -/
  | unreached (retries : Nat) (due : Bool) (made : Nat) (s : Session) (address : String)
      (done : List Entry) (hdue : (due || !s.isReady) = true)
      (hdone : Greeting timeout attempts none done) :
      Course timeout attempts method params extra retries due made s
        (.error (.unreachable address attempts)) s.invalidate done
  /-- The request is made, and its end ends the call. -/
  | ended (retries : Nat) (due : Bool) (made : Nat) (s after : Session) (done : List Entry)
      (verdict : Verdict) (result : Except DeviceError Json)
      (hturn : Turn timeout attempts method params extra due s verdict after done)
      (hresult : verdict.final? = some result) :
      Course timeout attempts method params extra retries due made s result after done
  /-- The request is made, it could be made again, and no retry is left. -/
  | spent (due : Bool) (made : Nat) (s after : Session) (done : List Entry) (verdict : Verdict)
      (e : DeviceError) (hturn : Turn timeout attempts method params extra due s verdict after done)
      (hresult : verdict.exhausted? (made + 1) = some e) :
      Course timeout attempts method params extra 0 due made s (.error e) after done
  /-- The request is made, and is made again. -/
  | again (retries : Nat) (due : Bool) (made : Nat) (s after next last : Session)
      (done later : List Entry) (verdict : Verdict) (dueNext : Bool)
      (result : Except DeviceError Json)
      (hturn : Turn timeout attempts method params extra due s verdict after done)
      (hnext : verdict.again? after = some (dueNext, next))
      (hlater : Course timeout attempts method params extra retries dueNext (made + 1) next result
        last later) :
      Course timeout attempts method params extra (retries + 1) due made s result last
        (later ++ done)

namespace Device

variable {σ : Type}

/-- An attempt does what an attempt can do. -/
theorem exists_attempted (d : Device σ) (request : Request) :
    ∃ done, Attempted d.session d.config.timeout request (d.attempt request).1
        (d.attempt request).2.session done ∧
      (d.attempt request).2.deeds = done ++ d.deeds ∧
      (d.attempt request).2.config = d.config := by
  unfold attempt Session.deviceId
  cases hid : d.session.deviceId? with
  | none =>
    dsimp only
    exact ⟨[], .unready hid, rfl, rfl⟩
  | some deviceId =>
    dsimp only
    generalize Frame.encodeNotes request deviceId d.session.nextTimestamp d.session.token = notes
    cases hframe : Frame.encode request deviceId d.session.nextTimestamp d.session.token with
    | error e =>
      dsimp only
      exact ⟨[], .unframed deviceId e hid hframe, deeds_noteAll _ _, rfl⟩
    | ok frame =>
      obtain ⟨sent, hsent, hdeeds, hsession, hconfig⟩ : ∃ sent : Device σ,
          (d.noteAll notes).note (.requestSent d.remote request) = sent ∧
            sent.deeds = d.deeds ∧ sent.session = d.session ∧ sent.config = d.config :=
        ⟨_, rfl, deeds_noteAll d notes, rfl, rfl⟩
      dsimp only
      rw [hsent, hsession, hconfig]
      obtain ⟨done, hdone, hline⟩ :=
        sent.transport.exists_exchanged frame d.config.timeout sent.line
      generalize sent.transport.exchange frame d.config.timeout sent.line = exchanged
        at hdone hline ⊢
      obtain ⟨reply, line⟩ := exchanged
      have hall : line.deeds = done ++ d.deeds := hline.trans (congrArg (done ++ ·) hdeeds)
      cases reply with
      | error e => exact ⟨done, .unanswered deviceId frame e done hid hframe hdone, hall, rfl⟩
      | ok reply =>
        refine ⟨done, .answered deviceId frame reply done _ hid hframe hdone, ?_, rfl⟩
        exact (Line.deeds_noteAll line _).trans hall

/-- A call gets ready to make its request, or reaches no device. -/
theorem prepare_cases (d : Device σ) (due : Bool) :
    (∃ ready before, Prepared d.session d.config.timeout (max 1 d.config.handshakeAttempts) due
        ready before ∧
      (d.prepare due).1 = .ok () ∧ (d.prepare due).2.session = ready ∧
      (d.prepare due).2.deeds = before ++ d.deeds ∧ (d.prepare due).2.config = d.config) ∨
    (∃ address done, (due || !d.session.isReady) = true ∧
      Greeting d.config.timeout (max 1 d.config.handshakeAttempts) none done ∧
      (d.prepare due).1 =
        .error (.unreachable address (max 1 d.config.handshakeAttempts)) ∧
      (d.prepare due).2.session = d.session.invalidate ∧
      (d.prepare due).2.deeds = done ++ d.deeds ∧ (d.prepare due).2.config = d.config) := by
  unfold prepare
  cases hdue : due || !d.session.isReady with
  | false =>
    rw [Bool.or_eq_false_iff, Bool.not_eq_false'] at hdue
    left
    exact ⟨_, _, .kept hdue.1 hdue.2, rfl, rfl, rfl, rfl⟩
  | true =>
    rw [if_pos rfl]
    unfold sendHandshake
    obtain ⟨header?, done, address, hdone, hresult, hdeeds, hsession, hconfig⟩ :=
      exists_greeting_handshakeLoop (max 1 d.config.handshakeAttempts)
        (max 1 d.config.handshakeAttempts) d
    dsimp only
    rw [hresult]
    cases header? with
    | some header =>
      left
      exact ⟨_, done, .greeted header done hdue hdone, rfl, hsession, hdeeds, hconfig⟩
    | none =>
      right
      exact ⟨address, done, rfl, hdone, rfl, hsession, hdeeds, hconfig⟩

/-- A call that gets ready takes one turn, and the end of the attempt says how it goes on. -/
theorem exists_turn (method : String) (params : Json) (extra : List (String × Json))
    (retries : Nat) (due : Bool) (made : Nat) (d : Device σ) (ready : Session)
    (before : List Entry)
    (hbefore : Prepared d.session d.config.timeout (max 1 d.config.handshakeAttempts) due ready
      before)
    (hresult : (d.prepare due).1 = .ok ()) (hsession : (d.prepare due).2.session = ready)
    (hdeeds : (d.prepare due).2.deeds = before ++ d.deeds)
    (hconfig : (d.prepare due).2.config = d.config) :
    ∃ verdict done, ∃ after : Device σ,
      Turn d.config.timeout (max 1 d.config.handshakeAttempts) method params extra due d.session
        verdict after.session done ∧
      after.deeds = done ++ d.deeds ∧ after.config = d.config ∧
      sendLoop method params extra retries due made d =
        match verdict with
        | .success value => (.ok value, after.note (.replied after.remote value))
        | .fatal e => (.error e, after)
        | .recoverable report =>
          match retries with
          | 0 => (.error (.device report.code report.message), after)
          | left + 1 =>
            sendLoop method params extra left false (made + 1)
              (after.note (.recoverableError method report left))
        | .transport e =>
          match retries with
          | 0 => (.error (.noResponse (made + 1) e), after)
          | left + 1 =>
            let next : Device σ :=
              { after with session := (after.session.skipIds retryIdStride).invalidate }
            sendLoop method params extra left true (made + 1)
              (next.note (.noReply method next.remote e left)) := by
  have hprepare : d.prepare due = (.ok (), (d.prepare due).2) := Prod.ext hresult rfl
  generalize (d.prepare due).2 = prepared at *
  subst hsession
  obtain ⟨done, hdone, hdoneDeeds, hdoneConfig⟩ :=
    exists_attempted { prepared with session := prepared.session.nextId }
      (requestOf method params extra prepared.session.nextId.currentId)
  have hnext : prepared.nextRequest method params extra =
      (requestOf method params extra prepared.session.nextId.currentId,
        { prepared with session := prepared.session.nextId }) := rfl
  have hmethod :
      (requestOf method params extra prepared.session.nextId.currentId).method = method := rfl
  have hturn (verdict : Verdict) (after : Session)
      (h : Attempted prepared.session.nextId prepared.config.timeout
        (requestOf method params extra prepared.session.nextId.currentId) verdict after done) :=
    Turn.intro prepared.session after before done verdict hbefore (hconfig ▸ h)
  rw [sendLoop, hprepare]
  dsimp only
  rw [hnext]
  dsimp only
  rw [hmethod]
  generalize requestOf method params extra prepared.session.nextId.currentId = request at *
  generalize attempt { prepared with session := prepared.session.nextId } request = tried at *
  obtain ⟨verdict, tried⟩ := tried
  refine ⟨verdict, _, tried.record (.attempt request verdict), hturn verdict _ hdone, ?_,
    hdoneConfig.trans hconfig, ?_⟩
  · rw [deeds_record _ _ rfl, hdoneDeeds, List.cons_append, List.append_assoc]
    exact congrArg (fun deeds => _ :: (done ++ deeds)) hdeeds
  · cases verdict <;> rfl

/-- A call that makes its request does what a course says. -/
theorem exists_course (method : String) (params : Json) (extra : List (String × Json))
    (retries : Nat) (due : Bool) (made : Nat) (d : Device σ) :
    ∃ done, Course d.config.timeout (max 1 d.config.handshakeAttempts) method params extra retries
        due made d.session (sendLoop method params extra retries due made d).1
        (sendLoop method params extra retries due made d).2.session done ∧
      (sendLoop method params extra retries due made d).2.deeds = done ++ d.deeds ∧
      (sendLoop method params extra retries due made d).2.config = d.config := by
  induction retries using Nat.strongRecOn generalizing due made d with
  | ind retries ih =>
    rcases d.prepare_cases due with
      ⟨ready, before, hbefore, hresult, hsession, hdeeds, hconfig⟩ |
      ⟨address, done, hdue, hdone, hresult, hsession, hdeeds, hconfig⟩
    · obtain ⟨verdict, done, after, hturn, hafter, hsettings, hloop⟩ :=
        exists_turn method params extra retries due made d ready before hbefore hresult hsession
          hdeeds hconfig
      -- Both ends after which a request is made again lead to a call with one retry less.
      have hagain (left : Nat) (dueNext : Bool) (next : Device σ) (hleft : retries = left + 1)
          (hnext : verdict.again? after.session = some (dueNext, next.session))
          (hnextDeeds : next.deeds = after.deeds) (hnextConfig : next.config = after.config) :
          ∃ done, Course d.config.timeout (max 1 d.config.handshakeAttempts) method params extra
              retries due made d.session
              (sendLoop method params extra left dueNext (made + 1) next).1
              (sendLoop method params extra left dueNext (made + 1) next).2.session done ∧
            (sendLoop method params extra left dueNext (made + 1) next).2.deeds =
              done ++ d.deeds ∧
            (sendLoop method params extra left dueNext (made + 1) next).2.config = d.config := by
        subst hleft
        obtain ⟨later, hlater, hlaterDeeds, hlaterConfig⟩ :=
          ih left (Nat.lt_succ_self left) dueNext (made + 1) next
        rw [hnextConfig, hsettings] at hlater hlaterConfig
        refine ⟨_, .again left due made _ _ _ _ done later _ dueNext _ hturn hnext hlater, ?_,
          hlaterConfig⟩
        rw [hlaterDeeds, hnextDeeds, hafter, List.append_assoc]
      rw [hloop]
      cases verdict with
      | success value =>
        exact ⟨done, .ended retries due made _ _ done _ _ hturn rfl, hafter, hsettings⟩
      | fatal e =>
        exact ⟨done, .ended retries due made _ _ done _ _ hturn rfl, hafter, hsettings⟩
      | recoverable report =>
        cases retries with
        | zero => exact ⟨done, .spent due made _ _ done _ _ hturn rfl, hafter, hsettings⟩
        | succ left =>
          exact hagain left false (after.note (.recoverableError method report left)) rfl rfl rfl
            rfl
      | transport e =>
        cases retries with
        | zero => exact ⟨done, .spent due made _ _ done _ _ hturn rfl, hafter, hsettings⟩
        | succ left => exact hagain left true _ rfl rfl rfl rfl
    · have hprepare : d.prepare due =
          (.error (.unreachable address (max 1 d.config.handshakeAttempts)), (d.prepare due).2) :=
        Prod.ext hresult rfl
      have hloop : sendLoop method params extra retries due made d =
          (.error (.unreachable address (max 1 d.config.handshakeAttempts)),
            (d.prepare due).2) := by
        rw [sendLoop, hprepare]
      rw [hloop]
      refine ⟨done, ?_, hdeeds, hconfig⟩
      dsimp only
      rw [hsession]
      exact .unreached retries due made _ address done hdue hdone

/-- How often a call with options makes its request again at most. -/
def retriesOf (config : DeviceConfig) (options : SendOptions) : Nat :=
  options.retryCount.getD config.retryCount

/-- How many handshakes are tried in a row at most. -/
def greetingsOf (config : DeviceConfig) : Nat := max 1 config.handshakeAttempts

/-- A handshake asked for is a greeting. -/
theorem exists_greeting_sendHandshake (d : Device σ) :
    ∃ header? done, Greeting d.config.timeout (greetingsOf d.config) header? done ∧
      d.sendHandshake.2.deeds = done ++ d.deeds ∧
      d.sendHandshake.2.session = greeted d.session header? ∧
      d.sendHandshake.2.config = d.config := by
  obtain ⟨header?, done, address, hdone, -, hdeeds, hsession, hconfig⟩ :=
    exists_greeting_handshakeLoop (greetingsOf d.config) (greetingsOf d.config) d
  exact ⟨header?, done, hdone, hdeeds, hsession, hconfig⟩

/-- A call does what a course says after the entry of its command. -/
theorem exists_course_sendWith (d : Device σ) (method : String) (params : Json)
    (options : SendOptions) :
    ∃ done, Course d.config.timeout (greetingsOf d.config) method params options.extra
        (retriesOf d.config options) (!d.session.isReady || !d.config.lazyDiscover) 0 d.session
        (d.sendWith method params options).1 (d.sendWith method params options).2.session done ∧
      (d.sendWith method params options).2.deeds =
        done ++ .command method params options.extra :: d.deeds ∧
      (d.sendWith method params options).2.config = d.config :=
  exists_course method params options.extra (retriesOf d.config options)
    (!d.session.isReady || !d.config.lazyDiscover) 0
    (d.record (.command method params options.extra))

end Device

end Appliance
