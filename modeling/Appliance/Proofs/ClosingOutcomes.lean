import Appliance.Proofs.Lockstep

/-!
# Whether a connection closes well

That a connection fails to close is noted and has no other effect. Two devices that start from the same
session, make the same calls and hear the same answers when they open connections, send and receive, do
the same: every action of a device is in lockstep with itself. Each of them is taken apart into what
comes first and what is made of its result, so that the laws of lockstep apply to it.
-/

namespace Appliance

section

variable {σ σ' : Type} {R : String → String → Prop}

/-! ## Handshakes -/

namespace Device

/-- Making a session is no deed. -/
@[simp] theorem deeds_establish (d : Device σ) (header : Header) :
    (d.establish header).deeds = d.deeds := by
  rw [establish, deeds_note]
  exact Line.deeds_noteAll _ _

/-- A device sends a handshake and reads the header of the reply. -/
def shake (d : Device σ) : Except DeviceError Header × Device σ :=
  ((d.transport.handshake d.config.timeout d.line).1,
    { d with line := (d.transport.handshake d.config.timeout d.line).2 })

/-- A handshake is an exchange, and its end is recorded. -/
theorem exchanges_shake :
    Exchanges Frame.handshake Transport.headerOfReply
      (fun reply => [.handshake (Transport.headerOfReply reply)]) (shake (σ := σ)) := by
  intro d
  obtain ⟨reply, done, hdone, hresult, hdeeds⟩ :=
    d.transport.exists_exchanged_handshake d.config.timeout d.line
  exact ⟨reply, done, _, hdone, Prod.ext hresult rfl, hdeeds⟩

/-- A handshake gives the same header or error. -/
theorem lockstep_shake (R : String → String → Prop) :
    Lockstep R Eq (shake (σ := σ)) (shake (σ := σ')) :=
  .exchange exchanges_shake exchanges_shake fun _ => rfl

/-- What comes after a handshake of which others are left: the session that its answer makes, or the
handshakes left. -/
def afterShake (total left : Nat) (result : Except DeviceError Header) (d : Device σ) :
    Except DeviceError Header × Device σ :=
  match result with
  | .ok header => (.ok header, d.establish header)
  | .error e => handshakeLoop total left (d.note (.handshakeFailed (total - left) total d.remote e))

/-- A handshake is sent, and its end says whether another one is. -/
theorem handshakeLoop_succ (total left : Nat) :
    handshakeLoop (σ := σ) total (left + 1) =
      fun d => afterShake total left d.shake.1 d.shake.2 := by
  funext d
  rw [handshakeLoop]
  rfl

/-- Any number of handshakes give the same header or error. -/
theorem lockstep_handshakeLoop (total left : Nat) :
    Lockstep R (ResultAlike R) (handshakeLoop (σ := σ) total left)
      (handshakeLoop (σ := σ') total left) := by
  induction left with
  | zero =>
    refine .silent (fun _ => rfl) (fun _ => rfl) ?_
    intro base base' d d' hd
    -- Each device names the address of its own transport.
    refine ⟨.error _ _ (.unreachable _ _ _ (hd.remote _ _)), ?_⟩
    exact hd.withSession (congrArg Session.invalidate hd.session)
  | succ left ih =>
    rw [handshakeLoop_succ, handshakeLoop_succ]
    refine (lockstep_shake R).bind Eq.refl ?_
    rintro result _ rfl
    cases result with
    | ok header =>
      refine .silent (fun d => deeds_establish d header) (fun d' => deeds_establish d' header) ?_
      intro base base' d d' hd
      exact ⟨.ok header, hd.establish header⟩
    | error e => exact ih.afterNote _ _

/-- Handshakes asked for give the same header or error. -/
theorem lockstep_sendHandshake :
    Lockstep R (ResultAlike R) (sendHandshake (σ := σ)) (sendHandshake (σ := σ')) :=
  .ofSession fun _ config =>
    lockstep_handshakeLoop (max 1 config.handshakeAttempts) (max 1 config.handshakeAttempts)

/-! ## Requests -/

/-- Getting ready succeeds for both or fails for both. -/
theorem lockstep_prepare (due : Bool) :
    Lockstep R (ResultAlike R) (fun d : Device σ => d.prepare due)
      (fun d' : Device σ' => d'.prepare due) := by
  have hready (s : Session) (config : DeviceConfig) :
      Lockstep R (ResultAlike R)
        (fun d : Device σ => if due || !s.isReady then
          ((d.sendHandshake).1.map fun _ => (), d.sendHandshake.2) else (.ok (), d))
        (fun d : Device σ' => if due || !s.isReady then
          ((d.sendHandshake).1.map fun _ => (), d.sendHandshake.2) else (.ok (), d)) := by
    split
    · exact lockstep_sendHandshake.map _ fun _ _ h => h.map _
    · exact .pure (.refl _)
  exact .ofSession hready

/-- A device sends a frame and waits for the reply. -/
def ask (frame : Octets) (d : Device σ) : Except TransportError Octets × Device σ :=
  ((d.transport.exchange frame d.config.timeout d.line).1,
    { d with line := (d.transport.exchange frame d.config.timeout d.line).2 })

/-- That is an exchange, and nothing else is recorded. -/
theorem exchanges_ask (frame : Octets) : Exchanges frame id (fun _ => []) (ask (σ := σ) frame) := by
  intro d
  obtain ⟨done, hdone, hdeeds⟩ := d.transport.exists_exchanged frame d.config.timeout d.line
  exact ⟨_, done, _, hdone, rfl, hdeeds⟩

/-- A frame gets the same reply. -/
theorem lockstep_ask (R : String → String → Prop) (frame : Octets) :
    Lockstep R Eq (ask (σ := σ) frame) (ask (σ := σ') frame) :=
  .exchange (exchanges_ask frame) (exchanges_ask frame) fun _ => rfl

/-- What comes of the reply to a request that was made in a session. -/
def afterAsk (s : Session) (request : Request) (reply : Except TransportError Octets)
    (d : Device σ) : Verdict × Device σ :=
  match reply with
  | .error e => (.transport e, d)
  | .ok reply =>
    ((s.judge d.remote request.method reply).1,
      { d.noteAll (s.judgeNotes reply) with
        session := (s.judge d.remote request.method reply).2 })

/-- A reply ends the attempt alike. -/
theorem lockstep_afterAsk (s : Session) (request : Request)
    (reply : Except TransportError Octets) :
    Lockstep R (Verdict.Alike R) (afterAsk (σ := σ) s request reply)
      (afterAsk (σ := σ') s request reply) := by
  cases reply with
  | error e => exact .pure (.refl _)
  | ok reply =>
    refine .silent (fun d => d.deeds_noteAll _) (fun d' => d'.deeds_noteAll _) ?_
    intro base base' d d' hd
    have hjudge := s.judge_alike (hd.remote d.line.state d'.line.state) request.method reply
    exact ⟨hjudge.1, (hd.noteAll _ _).withSession hjudge.2⟩

/-- A request made once in a session. -/
def attemptIn (s : Session) (request : Request) (d : Device σ) : Verdict × Device σ :=
  match s.deviceId with
  | .error e => (.fatal (.protocol e), d)
  | .ok deviceId =>
    let notes := Frame.encodeNotes request deviceId s.nextTimestamp s.token
    match Frame.encode request deviceId s.nextTimestamp s.token with
    | .error e => (.fatal (.protocol e), d.noteAll notes)
    | .ok frame =>
      let asked := ((d.noteAll notes).note (.requestSent d.remote request)).ask frame
      afterAsk s request asked.1 asked.2

/-- A request is made in the session that a device has. -/
theorem attempt_eq_attemptIn (request : Request) (d : Device σ) :
    d.attempt request = attemptIn d.session request d := by
  unfold attempt attemptIn
  cases d.session.deviceId with
  | error e => rfl
  | ok deviceId =>
    dsimp only
    cases Frame.encode request deviceId d.session.nextTimestamp d.session.token with
    | error e => rfl
    | ok frame =>
      generalize Frame.encodeNotes request deviceId d.session.nextTimestamp d.session.token = notes
      unfold ask afterAsk
      dsimp only
      generalize Transport.exchange _ frame _ _ = asked
      obtain ⟨reply, line⟩ := asked
      cases reply <;> rfl

/-- A frame ends the attempt alike. -/
theorem lockstep_asked (s : Session) (request : Request) (frame : Octets) :
    Lockstep R (Verdict.Alike R)
      (fun d : Device σ => afterAsk s request (d.ask frame).1 (d.ask frame).2)
      (fun d' : Device σ' => afterAsk s request (d'.ask frame).1 (d'.ask frame).2) := by
  refine (lockstep_ask R frame).bind Eq.refl ?_
  rintro reply _ rfl
  exact lockstep_afterAsk s request reply

/-- A request made once in a session ends alike. -/
theorem lockstep_attemptIn (s : Session) (request : Request) :
    Lockstep R (Verdict.Alike R) (attemptIn (σ := σ) s request) (attemptIn (σ := σ') s request) := by
  unfold attemptIn
  cases s.deviceId with
  | error e => exact .pure (.refl _)
  | ok deviceId =>
    dsimp only
    cases Frame.encode request deviceId s.nextTimestamp s.token with
    | error e =>
      refine .silent (fun d => d.deeds_noteAll _) (fun d' => d'.deeds_noteAll _) ?_
      intro base base' d d' hd
      exact ⟨.refl _, hd.noteAll _ _⟩
    | ok frame =>
      refine (lockstep_asked s request frame).after _ _ (fun d => ?_) (fun d' => ?_) ?_
      · rw [deeds_note, deeds_noteAll]
      · rw [deeds_note, deeds_noteAll]
      · intro base base' d d' hd
        exact (hd.noteAll _ _).note _ _

/-- The end of an attempt is recorded. -/
def recordAttempt (request : Request) (verdict : Verdict) (d : Device σ) : Verdict × Device σ :=
  (verdict, d.record (.attempt request verdict))

/-- A request made once in a session, with the next id of the session, and how that ended. -/
def turnIn (s : Session) (method : String) (params : Json) (extra : List (String × Json))
    (d : Device σ) : Verdict × Device σ :=
  let request := requestOf method params extra s.nextId.currentId
  let tried := attemptIn s.nextId request { d with session := s.nextId }
  recordAttempt request tried.1 tried.2

/-- A turn of a call ends alike. -/
theorem lockstep_turnIn (s : Session) (method : String) (params : Json)
    (extra : List (String × Json)) :
    Lockstep R (Verdict.Alike R) (turnIn (σ := σ) s method params extra)
      (turnIn (σ := σ') s method params extra) := by
  have hattempt : Lockstep R (Verdict.Alike R)
      (fun d : Device σ => attemptIn s.nextId
        (requestOf method params extra s.nextId.currentId) { d with session := s.nextId })
      (fun d' : Device σ' => attemptIn s.nextId
        (requestOf method params extra s.nextId.currentId) { d' with session := s.nextId }) :=
    (lockstep_attemptIn s.nextId _).after _ _ (fun _ => rfl) (fun _ => rfl)
      fun _ _ _ _ hd => hd.withSession rfl
  exact hattempt.bind .refl fun _ _ h => .record h rfl rfl rfl rfl

/-- How a call goes on after a turn: it ends, or `again` is called with one retry less and told whether
a handshake is due. -/
def proceed (method : String) (retries made : Nat)
    (again : Nat → Bool → Device σ → Except DeviceError Json × Device σ) (verdict : Verdict)
    (d : Device σ) : Except DeviceError Json × Device σ :=
  match verdict with
  | .success value => (.ok value, d.note (.replied d.remote value))
  | .fatal e => (.error e, d)
  | .recoverable report =>
    match retries with
    | 0 => (.error (.device report.code report.message), d)
    | left + 1 => again left false (d.note (.recoverableError method report left))
  | .transport e =>
    match retries with
    | 0 => (.error (.noResponse made e), d)
    | left + 1 =>
      let d := { d with session := (d.session.skipIds retryIdStride).invalidate }
      again left true (d.note (.noReply method d.remote e left))

/-- A call goes on alike. -/
theorem lockstep_proceed (method : String) (retries made : Nat)
    {again : Nat → Bool → Device σ → Except DeviceError Json × Device σ}
    {again' : Nat → Bool → Device σ' → Except DeviceError Json × Device σ'}
    (hagain : ∀ left due, retries = left + 1 →
      Lockstep R (ResultAlike R) (again left due) (again' left due))
    {verdict verdict' : Verdict} (h : verdict.Alike R verdict') :
    Lockstep R (ResultAlike R) (proceed method retries made again verdict)
      (proceed method retries made again' verdict') := by
  cases h with
  | fatal e e' he => exact .pure (.error _ _ he)
  | refl =>
    cases verdict with
    | success value => exact .pureNote (.refl _) _ _
    | fatal e => exact .pure (.refl _)
    | recoverable report =>
      cases retries with
      | zero => exact .pure (.refl _)
      | succ left => exact (hagain left false rfl).afterNote _ _
    | transport e =>
      cases retries with
      | zero => exact .pure (.refl _)
      | succ left =>
        refine (hagain left true rfl).after _ _ (fun _ => rfl) (fun _ => rfl) ?_
        intro base base' d d' hd
        refine (hd.withSession ?_).note _ _
        rw [hd.session]

/-- A call takes a turn in a session and goes on. -/
def takeTurn (s : Session) (method : String) (params : Json) (extra : List (String × Json))
    (retries made : Nat) (d : Device σ) : Except DeviceError Json × Device σ :=
  let ended := turnIn s method params extra d
  proceed method retries (made + 1)
    (fun left due d => sendLoop method params extra left due (made + 1) d) ended.1 ended.2

/-- What comes after getting ready: the call ends, or takes a turn. -/
def afterPrepare (method : String) (params : Json) (extra : List (String × Json))
    (retries made : Nat) (result : Except DeviceError Unit) (d : Device σ) :
    Except DeviceError Json × Device σ :=
  match result with
  | .error e => (.error e, d)
  | .ok () => takeTurn d.session method params extra retries made d

/-- A call gets ready, takes a turn and goes on. -/
theorem sendLoop_eq (method : String) (params : Json) (extra : List (String × Json))
    (retries : Nat) (due : Bool) (made : Nat) :
    sendLoop (σ := σ) method params extra retries due made =
      fun d => afterPrepare method params extra retries made (d.prepare due).1 (d.prepare due).2 := by
  funext d
  have hprepare : d.prepare due = ((d.prepare due).1, (d.prepare due).2) := rfl
  rw [sendLoop, hprepare]
  generalize (d.prepare due).2 = ready
  cases (d.prepare due).1 with
  | error e => rfl
  | ok u =>
    have hnext : ready.nextRequest method params extra =
        (requestOf method params extra ready.session.nextId.currentId,
          { ready with session := ready.session.nextId }) := rfl
    dsimp only
    rw [hnext]
    dsimp only
    rw [attempt_eq_attemptIn]
    unfold afterPrepare takeTurn turnIn recordAttempt
    dsimp only
    generalize attemptIn _ _ _ = tried
    obtain ⟨verdict, tried⟩ := tried
    cases verdict <;> cases retries <;> rfl

/-- A call to make a request gives the same result. -/
theorem lockstep_sendLoop (method : String) (params : Json) (extra : List (String × Json))
    (retries : Nat) (due : Bool) (made : Nat) :
    Lockstep R (ResultAlike R) (sendLoop (σ := σ) method params extra retries due made)
      (sendLoop (σ := σ') method params extra retries due made) := by
  induction retries using Nat.strongRecOn generalizing due made with
  | ind retries ih =>
    -- A turn makes its request from the session, so that the session is fixed first.
    have hturn (s : Session) : Lockstep R (ResultAlike R)
        (takeTurn (σ := σ) s method params extra retries made)
        (takeTurn (σ := σ') s method params extra retries made) := by
      have hagain (left : Nat) (due : Bool) (hleft : retries = left + 1) :=
        ih left (hleft ▸ Nat.lt_succ_self left) due (made + 1)
      exact (lockstep_turnIn s method params extra).bind .refl
        fun _ _ h => lockstep_proceed method retries (made + 1) hagain h
    rw [sendLoop_eq, sendLoop_eq]
    refine (lockstep_prepare due).bind .refl ?_
    intro result result' h
    cases h with
    | error e e' h => exact .pure (.error e e' h)
    | ok u => exact .ofSession fun s _ => hturn s

/-! ## Calls -/

/-- A command is recorded before anything is done for it. -/
def issue (method : String) (params : Json) (extra : List (String × Json)) (d : Device σ) :
    Unit × Device σ :=
  ((), d.record (.command method params extra))

/-- A command with options gives the same result. -/
theorem lockstep_sendWith (method : String) (params : Json) (options : SendOptions) :
    Lockstep R (ResultAlike R) (fun d : Device σ => d.sendWith method params options)
      (fun d' : Device σ' => d'.sendWith method params options) := by
  have hloop (u u' : Unit) (_ : u = u') :
      Lockstep R (ResultAlike R)
        (fun d : Device σ => sendLoop method params options.extra (retriesOf d.config options)
          (!d.session.isReady || !d.config.lazyDiscover) 0 d)
        (fun d : Device σ' => sendLoop method params options.extra (retriesOf d.config options)
          (!d.session.isReady || !d.config.lazyDiscover) 0 d) :=
    .ofSession fun s config => lockstep_sendLoop method params options.extra
      (retriesOf config options) (!s.isReady || !config.lazyDiscover) 0
  have hissue : Lockstep R Eq (issue (σ := σ) method params options.extra)
      (issue (σ := σ') method params options.extra) :=
    .record rfl rfl rfl rfl rfl
  exact hissue.bind Eq.refl hloop

/-- A command gives the same result. -/
theorem lockstep_send (method : String) (params : Json) :
    Lockstep R (ResultAlike R) (fun d : Device σ => d.send method params)
      (fun d' : Device σ' => d'.send method params) :=
  lockstep_sendWith method params .default

/-- What is made of the end of the command that asks a device about itself. -/
def afterAsked (sent : Except DeviceError Json) (d : Device σ) :
    Except DeviceError DeviceInfo × Device σ :=
  (learnt sent,
    match learnt sent with
    | .ok info => d.note (.infoReceived info)
    | .error _ => d)

/-- The same is made of it, but for the addresses that it names. -/
theorem lockstep_afterAsked {sent sent' : Except DeviceError Json} (h : ResultAlike R sent sent') :
    Lockstep R (ResultAlike R) (afterAsked (σ := σ) sent) (afterAsked (σ := σ') sent') := by
  have hlearnt := h.learnt
  unfold afterAsked
  generalize learnt sent = told at hlearnt ⊢
  generalize learnt sent' = told' at hlearnt ⊢
  cases hlearnt with
  | ok info => exact .pureNote (.ok info) _ _
  | error e e' h => exact .pure (.error e e' h)

/-- A device asked about itself is given one command. -/
theorem info_eq_afterAsked (d : Device σ) :
    d.info =
      afterAsked ((d.note .infoRequested).send infoMethod (.array [])).1
        ((d.note .infoRequested).send infoMethod (.array [])).2 := by
  unfold info afterAsked learnt
  generalize (d.note .infoRequested).send infoMethod (.array []) = sent
  obtain ⟨result, after⟩ := sent
  cases result with
  | error e => cases e <;> rfl
  | ok v =>
    dsimp only
    cases (convert v : Except ConversionError DeviceInfo) <;> rfl

/-- A device asked about itself gives the same result. -/
theorem lockstep_info :
    Lockstep R (ResultAlike R) (fun d : Device σ => d.info) (fun d' : Device σ' => d'.info) := by
  simp only [info_eq_afterAsked]
  exact ((lockstep_send infoMethod (.array [])).bind .refl fun _ _ h => lockstep_afterAsked h).afterNote
    (fun _ => .infoRequested) (fun _ => .infoRequested)

/-- What comes after one piece of properties has been asked for. -/
def afterPiece (getter : String) (rest : List (List Json)) (values : List Json)
    (sent : Except DeviceError Json) (d : Device σ) : Except DeviceError (List Json) × Device σ :=
  match sent with
  | .error e => (.error e, d)
  | .ok (.array more) => collect getter rest (values ++ more) d
  | .ok other => (.error (.invalidResponse (.notList getter other)), d)

/-- A piece of properties is asked for, and then the rest. -/
theorem collect_cons (getter : String) (piece : List Json) (rest : List (List Json))
    (values : List Json) :
    collect (σ := σ) getter (piece :: rest) values =
      fun d => afterPiece getter rest values (d.send getter (.array piece)).1
        (d.send getter (.array piece)).2 := by
  funext d
  unfold collect afterPiece
  generalize d.send getter (.array piece) = sent
  obtain ⟨result, after⟩ := sent
  cases result with
  | error e => rfl
  | ok v => cases v <;> rfl

/-- Pieces of properties asked for give the same values. -/
theorem lockstep_collect (getter : String) (all : List (List Json)) (values : List Json) :
    Lockstep R (ResultAlike R) (collect (σ := σ) getter all values)
      (collect (σ := σ') getter all values) := by
  induction all generalizing values with
  | nil => exact .pure (.refl _)
  | cons piece rest ih =>
    rw [collect_cons, collect_cons]
    refine (lockstep_send getter (.array piece)).bind .refl ?_
    intro sent sent' h
    cases h with
    | error e e' h => exact .pure (.error e e' h)
    | ok v =>
      cases v with
      | array more => exact ih (values ++ more)
      | null | bool _ | number _ | string _ | object _ => exact .pure (.refl _)

/-- What is made of the values of properties. -/
def afterCollect (count : Nat) (collected : Except DeviceError (List Json)) (d : Device σ) :
    Except DeviceError (List Json) × Device σ :=
  match collected with
  | .error e => (.error e, d)
  | .ok values =>
    if values.length ≠ count then (.ok values, d.note (.propertyCount count values.length))
    else (.ok values, d)

/-- Properties are asked for in pieces. -/
theorem getProperties_eq_afterCollect (d : Device σ) (properties : List Json)
    (getter : Option String) (most : Option Nat) :
    d.getProperties properties getter most =
      let collected := collect (getter.getD propertyMethod)
        (pieces (pieceSize properties.length most) properties.length properties) [] d
      afterCollect properties.length collected.1 collected.2 := by
  unfold getProperties afterCollect
  dsimp only
  generalize collect (getter.getD propertyMethod)
    (pieces (pieceSize properties.length most) properties.length properties) [] d = collected
  obtain ⟨result, after⟩ := collected
  cases result <;> rfl

/-- Properties asked for give the same values. -/
theorem lockstep_getProperties (properties : List Json) (getter : Option String)
    (most : Option Nat) :
    Lockstep R (ResultAlike R) (fun d : Device σ => d.getProperties properties getter most)
      (fun d' : Device σ' => d'.getProperties properties getter most) := by
  simp only [getProperties_eq_afterCollect]
  refine (lockstep_collect (getter.getD propertyMethod)
    (pieces (pieceSize properties.length most) properties.length properties) []).bind .refl ?_
  intro collected collected' h
  cases h with
  | error e e' h => exact .pure (.error e e' h)
  | ok values =>
    unfold afterCollect
    dsimp only
    split
    · exact .pureNote (.refl _) _ _
    · exact .pure (.refl _)

/-- What is made of a value that is turned into another one. -/
def converted (convert : Json → Except ConversionError Json) :
    Except DeviceError Json → Except DeviceError Answer
  | .error e => .error e
  | .ok v => ((convert v).mapError .conversion).map .value

/-- The same is made of it, but for the addresses that it names. -/
theorem converted_alike (convert : Json → Except ConversionError Json)
    {sent sent' : Except DeviceError Json} (h : ResultAlike R sent sent') :
    ResultAlike R (converted convert sent) (converted convert sent') := by
  cases h with
  | ok v => exact .refl _
  | error e e' h => exact .error e e' h

/-- A command whose result is converted is a command. -/
theorem perform_sendTyped (d : Device σ) (method : String) (params : Json)
    (convert : Json → Except ConversionError Json) :
    d.perform (.sendTyped method params convert) =
      (converted convert (d.send method params).1, (d.send method params).2) := by
  unfold perform converted
  dsimp only
  generalize d.send method params = sent
  obtain ⟨result, after⟩ := sent
  cases result <;> rfl

/-- A call gives the same result. -/
theorem lockstep_perform (call : Call) :
    Lockstep R (ResultAlike R) (fun d : Device σ => d.perform call)
      (fun d' : Device σ' => d'.perform call) := by
  cases call with
  | handshake => exact lockstep_sendHandshake.map _ fun _ _ h => h.map _
  | send method params => exact (lockstep_send method params).map _ fun _ _ h => h.map _
  | sendWith method params options =>
    exact (lockstep_sendWith method params options).map _ fun _ _ h => h.map _
  | sendTyped method params convert =>
    simp only [perform_sendTyped]
    exact (lockstep_send method params).map _ fun _ _ h => converted_alike convert h
  | info => exact lockstep_info.map _ fun _ _ h => h.map _
  | getProperties properties getter most =>
    exact (lockstep_getProperties properties getter most).map _ fun _ _ h => h.map _

/-- The sessions after each of some calls. -/
def sessions (d : Device σ) : List Call → List Session
  | [] => []
  | call :: calls => (d.perform call).2.session :: (d.perform call).2.sessions calls

/-- Calls add to the journal. -/
theorem suffix_run (d : Device σ) (calls : List Call) : d.deeds <:+ (d.run calls).2.deeds := by
  obtain ⟨issued, -, honward⟩ := d.exists_onward_run calls
  obtain ⟨⟨done, scopes, hdeeds, -⟩, -⟩ := honward.exists_scoped
  exact ⟨done, hdeeds.symm⟩

/-- Calls give the same results and leave the same sessions, each of them. -/
theorem run_alike (calls : List Call) {script : List Heard} {base base' : List Entry}
    {d : Device σ} {d' : Device σ'} (hd : Abreast R base base' d d')
    (hs : Follows script base (d.run calls).2.deeds)
    (hs' : Follows script base' (d'.run calls).2.deeds) :
    List.Forall₂ (ResultAlike R) (d.run calls).1 (d'.run calls).1 ∧
      d.sessions calls = d'.sessions calls ∧
      Abreast R base base' (d.run calls).2 (d'.run calls).2 := by
  induction calls generalizing d d' with
  | nil => exact ⟨.nil, rfl, hd⟩
  | cons call calls ih =>
    have hstep : Lockstep R (ResultAlike R) (fun d : Device σ => d.perform call)
        (fun d' : Device σ' => d'.perform call) := lockstep_perform call
    have hmid : Follows script base (d.perform call).2.deeds :=
      hs.of_suffix (hd.deeds.suffix.trans (hstep.grows d)) ((d.perform call).2.suffix_run calls)
    have hmid' : Follows script base' (d'.perform call).2.deeds :=
      hs'.of_suffix (hd.deeds.suffix'.trans (hstep.grows' d')) ((d'.perform call).2.suffix_run calls)
    obtain ⟨hresult, hnext⟩ := hstep.alike script base base' d d' hd hmid hmid'
    obtain ⟨hresults, hsessions, hlast⟩ := ih hnext hs hs'
    refine ⟨.cons hresult hresults, ?_, hlast⟩
    rw [sessions, sessions, hnext.session, hsessions]

end Device

end

/-! ## Runs -/

namespace Device

variable {σ : Type}

/-- Two runs of the same calls from the same session, with the same settings, that hear the same
script, do the same but for what closing answers. -/
theorem run_of_script {σ' : Type} {R : String → String → Prop} (d : Device σ) (d' : Device σ')
    (calls : List Call) (hsession : d.session = d'.session) (hconfig : d.config = d'.config)
    (hremote : ∀ s s', R (d.transport.remote s) (d'.transport.remote s'))
    {done done' : List Entry} (hdone : (d.run calls).2.deeds = done ++ d.deeds)
    (hdone' : (d'.run calls).2.deeds = done' ++ d'.deeds) {script : List Heard}
    (hs : heard (operations done) <+: script) (hs' : heard (operations done') <+: script) :
    List.Forall₂ (ResultAlike R) (d.run calls).1 (d'.run calls).1 ∧
      d.sessions calls = d'.sessions calls ∧
      (operations done).map Wire.settled = (operations done').map Wire.settled := by
  have hstart : Abreast R d.deeds d'.deeds d d' :=
    ⟨hsession, hconfig, hremote, .refl d.deeds d'.deeds⟩
  obtain ⟨hresults, hsessions, hlast⟩ :=
    run_alike calls hstart ⟨done, hdone, hs⟩ ⟨done', hdone', hs'⟩
  obtain ⟨all, all', hall, hall', hsettled⟩ := hlast.deeds
  rw [hdone, List.append_cancel_right_eq] at hall
  rw [hdone', List.append_cancel_right_eq] at hall'
  subst hall
  subst hall'
  exact ⟨hresults, hsessions, hsettled⟩

/-- The operations of the transport in a run are scopes in turn, one for each exchange that a handshake
or a request makes. So a connection that is opened is closed once, by the last operation before the next
connection, and one datagram is sent over it, and nothing is done where none is opened. Another run of
the same calls from the same session, with the same settings and on any transport, in which opening,
sending and receiving answer by the same script, has the same operations but for what closing answers,
and so the same datagrams, and leaves the same sessions. It gives the same results but for the addresses
in their errors, and the same throughout if both transports name one address. -/
theorem run_by_scopes_whatever_closing_answers (d : Device σ) (calls : List Call) :
    ∃ done, (d.run calls).2.deeds = done ++ d.deeds ∧
      (∃ scopes, Scoped d.config.timeout done scopes ∧ operations done = scopes.flatten ∧
        ∀ scope ∈ scopes, IsScope scope) ∧
      (∀ before answer after, operations done = before ++ .connect answer :: after →
        (answer = .ok () → (datagrams (untilConnect after)).length = 1 ∧
          (untilConnect after).countP Wire.isDisconnect = 1 ∧
          ∃ closed, (untilConnect after).getLast? = some (.disconnect closed)) ∧
        (∀ e, answer = .error e → untilConnect after = [])) ∧
      ∀ {σ' : Type} (d' : Device σ'), d.session = d'.session → d.config = d'.config →
        ∃ done', (d'.run calls).2.deeds = done' ++ d'.deeds ∧
          ∀ script, heard (operations done) <+: script → heard (operations done') <+: script →
            (operations done).map Wire.settled = (operations done').map Wire.settled ∧
              datagrams (operations done) = datagrams (operations done') ∧
              d.sessions calls = d'.sessions calls ∧
              List.Forall₂ (ResultAlike fun _ _ => True) (d.run calls).1 (d'.run calls).1 ∧
              ((∀ s s', d.transport.remote s = d'.transport.remote s') →
                (d.run calls).1 = (d'.run calls).1) := by
  obtain ⟨issued, -, honward⟩ := d.exists_onward_run calls
  obtain ⟨⟨done, scopes, hdone, hscopes⟩, -⟩ := honward.exists_scoped
  refine ⟨done, hdone, ⟨scopes, hscopes, hscopes.operations_eq, hscopes.isScope⟩, ?_, ?_⟩
  · intro before answer after heq
    rw [hscopes.operations_eq] at heq
    have hscope := (isScope_of_connect before hscopes.isScope heq).of_eq_cons rfl
    obtain ⟨rfl, hsent, hclosed, hlast⟩ | ⟨⟨e, rfl⟩, hnone⟩ := hscope
    · exact ⟨fun _ => ⟨hsent, hclosed, hlast⟩, nofun⟩
    · exact ⟨nofun, fun _ _ => hnone⟩
  · intro σ' d' hsession hconfig
    obtain ⟨done', hdone'⟩ := d'.suffix_run calls
    refine ⟨done', hdone'.symm, ?_⟩
    intro script hs hs'
    have hrun {R : String → String → Prop}
        (hremote : ∀ s s', R (d.transport.remote s) (d'.transport.remote s')) :=
      run_of_script d d' calls hsession hconfig hremote hdone hdone'.symm hs hs'
    obtain ⟨hresults, hsessions, hsettled⟩ := hrun (R := fun _ _ => True) fun _ _ => trivial
    refine ⟨hsettled, ?_, hsessions, hresults, ?_⟩
    · rw [← datagrams_map_settled, hsettled, datagrams_map_settled]
    · intro hremote
      have hsame := (hrun hremote).1.imp fun _ _ h => h.eq
      exact List.forall₂_eq_eq_eq ▸ hsame

/-- A client like another one, on a transport that never closes a connection. -/
def neverClosing (d : Device σ) : Device σ :=
  { d with transport := { d.transport with disconnect := fun s => ⟨.error .notConnected, s, []⟩ } }

/-- A handshake gives the same header whether its connection closes or not. -/
theorem run_by_scopes_without_closing :
    ∃ header,
      ((repliedTo Frame.handshake).run [.handshake]).1 = [.ok (.header header)] ∧
      ((repliedTo Frame.handshake).neverClosing.run [.handshake]).1 = [.ok (.header header)] ∧
      .wire (.disconnect (.ok ())) ∈ ((repliedTo Frame.handshake).run [.handshake]).2.deeds ∧
      .wire (.disconnect (.error .notConnected)) ∈
        ((repliedTo Frame.handshake).neverClosing.run [.handshake]).2.deeds := by
  obtain ⟨done, hdone, -, -, hother⟩ :=
    run_by_scopes_whatever_closing_answers (repliedTo Frame.handshake) [.handshake]
  obtain ⟨done', hdone', hscript⟩ := hother (repliedTo Frame.handshake).neverClosing rfl rfl
  have hstart : (repliedTo Frame.handshake).deeds = [] := rfl
  have hstart' : (repliedTo Frame.handshake).neverClosing.deeds = [] := rfl
  rw [hstart, List.append_nil] at hdone
  rw [hstart', List.append_nil] at hdone'
  subst hdone
  subst hdone'
  obtain ⟨-, -, -, -, hsame⟩ := hscript _ (List.prefix_refl _) (List.prefix_refl _)
  exact ⟨_, rfl, (hsame fun _ _ => rfl).symm, .tail _ (.head _), .tail _ (.head _)⟩

end Device

end Appliance
