import Appliance.Proofs.Course
import Appliance.Proofs.FrameRoundTrip
import Appliance.Proofs.ReplyJudgement

/-!
# What a request builds on

A request says whose it is and when: it carries the id that the latest handshake told and the clock
after the one of the header that was accepted last. Both are read off the deeds here, without regard
to sessions, and a session is shown to keep them through everything that a call does.

A header is accepted if it answers a handshake, or if it heads an authentic reply whose body is a
response.
-/

namespace Appliance

/-- What a call asks for. -/
structure Command where
  method : String
  params : Json
  extra : List (String × Json)

/-! ## Read off the deeds -/

/-- The id of the device that the latest handshake has told. -/
def latestDevice : List Entry → Option UInt32
  | [] => none
  | .handshake (.ok header) :: _ => some header.deviceId
  | _ :: before => latestDevice before

/-- The latest command. -/
def latestCommand : List Entry → Option Command
  | [] => none
  | .command method params extra :: _ => some ⟨method, params, extra⟩
  | _ :: before => latestCommand before

/-- The header of a reply, if the reply is authentic and its body is a response. -/
def acceptedHeader? (token : Token) (reply : Octets) : Option Header :=
  match Frame.decode reply token with
  | .error _ => none
  | .ok frame =>
    match frame.body with
    | none => none
    | some body =>
      match Response.ofJson body with
      | .error _ => none
      | .ok _ => some frame.header

/-- The clock of a reply if it is accepted, or else the one before it. -/
def clockAfter (token : Token) (reply : Octets) (before : Option UInt32) : Option UInt32 :=
  match acceptedHeader? token reply with
  | some header => some header.timestamp
  | none => before

/-- The clock of the header that was accepted last. -/
def latestClock (token : Token) : List Entry → Option UInt32
  | [] => none
  | .handshake (.ok header) :: _ => some header.timestamp
  | .wire (.receive _ (.ok reply)) :: before => clockAfter token reply (latestClock token before)
  | _ :: before => latestClock token before

/-! ## What deeds have to be -/

/-- Octets are a frame with nothing in the reserved word, a device's id and a clock, a checksum that
holds under the token, and a request enciphered. -/
def Carries (token : Token) (data : Octets) (deviceId timestamp : UInt32) (request : Request) :
    Prop :=
  ∃ header, Header.parse data = .ok header ∧ header.unknown = 0 ∧ header.deviceId = deviceId ∧
    header.timestamp = timestamp ∧
    checksum header.fields token (data.drop Header.size) = header.checksum ∧
    token.decrypt? (data.drop Header.size) = some request.toJson.octets

/-- A datagram is a handshake, or a request of the latest command that builds on the device and the
clock that the deeds before it say. -/
def SentWell (token : Token) (before : List Entry) (data : Octets) : Prop :=
  data = Frame.handshake ∨
    ∃ command id deviceId clock, latestCommand before = some command ∧
      latestDevice before = some deviceId ∧ latestClock token before = some clock ∧
      Carries token data deviceId (clock + 1)
        (requestOf command.method command.params command.extra id)

/-- What a datagram and an attempt have to be after some deeds. -/
def Entry.DoneWell (token : Token) (before : List Entry) : Entry → Prop
  | .wire (.send data _) => SentWell token before data
  | .attempt request _ =>
    ∃ command id, latestCommand before = some command ∧
      request = requestOf command.method command.params command.extra id
  | .wire (.connect _) | .wire (.receive _ _) | .wire (.disconnect _) | .handshake _
  | .command _ _ _ | .note _ => True

/-- Every deed is what it has to be after those before it. -/
def AllDoneWell (token : Token) : List Entry → Prop
  | [] => True
  | e :: before => e.DoneWell token before ∧ AllDoneWell token before

/-- Every deed of some that are done well is done well, wherever it stands. -/
theorem AllDoneWell.of_suffix (token : Token) (all before : List Entry) (e : Entry)
    (h : AllDoneWell token all) (hsuffix : e :: before <:+ all) : e.DoneWell token before := by
  induction all with
  | nil => exact absurd (List.suffix_nil.mp hsuffix) (List.cons_ne_nil e before)
  | cons f rest ih =>
    rcases List.suffix_cons_iff.mp hsuffix with heq | hsuffix
    · cases heq
      exact h.1
    · exact ih h.2 hsuffix

/-- A session keeps what deeds say: the token, and where a handshake has told the device's id, that
id and the clock accepted last. And all deeds are done well. -/
structure Keeps (token : Token) (s : Session) (done : List Entry) : Prop where
  token_eq : s.token = token
  device : ∀ id, s.deviceId? = some id →
    latestDevice done = some id ∧ latestClock token done = some s.lastTimestamp
  well : AllDoneWell token done

namespace Keeps

variable {token : Token} {s : Session} {done : List Entry}

/-- The counter of a session plays no part. -/
theorem nextId (h : Keeps token s done) : Keeps token s.nextId done :=
  ⟨h.token_eq, h.device, h.well⟩

/-- A session without a device's id keeps nothing but its token. -/
theorem invalidate (h : s.token = token) (hwell : AllDoneWell token done) :
    Keeps token s.invalidate done :=
  ⟨h, nofun, hwell⟩

end Keeps

/-! ## Exchanges -/

section

variable {token : Token} {timeout : Millis} {done before : List Entry}

/-- An exchange tells no id and is no command. -/
theorem Exchanged.latest_eq {data : Octets} {reply : Except TransportError Octets}
    (h : Exchanged data timeout reply done) (before : List Entry) :
    latestDevice (done ++ before) = latestDevice before ∧
      latestCommand (done ++ before) = latestCommand before := by
  cases h <;> exact ⟨rfl, rfl⟩

/-- An exchange of a datagram that may be sent is done well. -/
theorem Exchanged.allDoneWell {data : Octets} {reply : Except TransportError Octets}
    (h : Exchanged data timeout reply done) (hdata : SentWell token before data)
    (hbefore : AllDoneWell token before) : AllDoneWell token (done ++ before) := by
  cases h with
  | unconnected e => exact ⟨trivial, hbefore⟩
  | unsent e closed => exact ⟨trivial, hdata, trivial, hbefore⟩
  | asked reply closed => exact ⟨trivial, trivial, hdata, trivial, hbefore⟩

/-- The clock after an exchange that failed. -/
theorem Exchanged.latestClock_error {data : Octets} {e : TransportError}
    (h : Exchanged data timeout (.error e) done) :
    latestClock token (done ++ before) = latestClock token before := by
  cases h <;> rfl

/-- The clock after an exchange that was answered. -/
theorem Exchanged.latestClock_ok {data reply : Octets}
    (h : Exchanged data timeout (.ok reply) done) :
    latestClock token (done ++ before) = clockAfter token reply (latestClock token before) := by
  cases h
  rfl

end

/-! ## Handshakes -/

/-- Handshakes that are answered say whom a session is with; otherwise nothing changes. -/
theorem Greeting.latest_eq {timeout : Millis} {attempts : Nat} {header? : Option Header}
    {done : List Entry} (h : Greeting timeout attempts header? done) (token : Token)
    (before : List Entry) (hbefore : AllDoneWell token before) :
    AllDoneWell token (done ++ before) ∧
      latestCommand (done ++ before) = latestCommand before ∧
      ∀ header, header? = some header →
        latestDevice (done ++ before) = some header.deviceId ∧
          latestClock token (done ++ before) = some header.timestamp := by
  induction h generalizing before with
  | unanswered => exact ⟨hbefore, rfl, nofun⟩
  | answered left reply done header hdone hreply =>
    refine ⟨⟨trivial, hdone.allDoneWell (Or.inl rfl) hbefore⟩, (hdone.latest_eq before).2, ?_⟩
    intro header' heq
    cases heq
    exact ⟨rfl, rfl⟩
  | missed left reply done e header? later hdone hreply hlater ih =>
    obtain ⟨hwell, hcommand, hheader⟩ := ih (.handshake (.error e) :: (done ++ before))
      ⟨trivial, hdone.allDoneWell (Or.inl rfl) hbefore⟩
    have hsplit : later ++ .handshake (.error e) :: done ++ before =
        later ++ .handshake (.error e) :: (done ++ before) := by
      rw [List.append_assoc, List.cons_append]
    rw [hsplit]
    exact ⟨hwell, hcommand.trans (hdone.latest_eq before).2, hheader⟩

/-- A session that is ready for a request keeps what the deeds before the request say. -/
theorem Prepared.keeps {s ready : Session} {timeout : Millis} {attempts : Nat} {due : Bool}
    {done : List Entry} (h : Prepared s timeout attempts due ready done) (token : Token)
    (before : List Entry) (hs : Keeps token s before) :
    Keeps token ready (done ++ before) ∧
      latestCommand (done ++ before) = latestCommand before := by
  cases h with
  | kept => exact ⟨hs, rfl⟩
  | greeted header _ _ hdone =>
    obtain ⟨hwell, hcommand, hheader⟩ := hdone.latest_eq token before hs.well
    refine ⟨⟨hs.token_eq, ?_, hwell⟩, hcommand⟩
    intro id hid
    cases hid
    exact hheader header rfl

/-! ## Requests -/

/-- A request in a frame is carried as it has to be. -/
theorem Frame.carries_of_encode (request : Request) (deviceId timestamp : UInt32) (token : Token)
    (frame : Octets) (h : encode request deviceId timestamp token = .ok frame) :
    Carries token frame deviceId timestamp request := by
  have hjson : Payload.json request = .ok request.toJson := rfl
  have hfits : request.toJson.octets.length ≤ maxText := by
    by_contra hlarge
    rw [encode_of_lt_length request _ deviceId timestamp token hjson (Nat.not_le.mp hlarge)] at h
    cases h
  rw [encode_of_length_le request _ deviceId timestamp token hjson hfits] at h
  cases h
  have hstarts := starts_wrap 0 deviceId timestamp token _
    ((size_le_iff token request.toJson.octets).mpr hfits)
  refine ⟨_, (Header.parse_eq_ok_iff _ _).mpr ⟨_, hstarts⟩, rfl, rfl, rfl, ?_, ?_⟩
  · rw [hstarts.drop_size]
    exact checksum_headerOf 0 deviceId timestamp token _
  · rw [hstarts.drop_size, Token.decrypt?_encrypt]

/-- A reply that is judged moves the session to the clock of its header if it is accepted, and
changes nothing but the counter otherwise. -/
theorem Judged.keeps {s after : Session} {address method : String} {reply : Octets} {v : Verdict}
    (h : Judged s address method reply v after) :
    after.token = s.token ∧ after.deviceId? = s.deviceId? ∧
      clockAfter s.token reply (some s.lastTimestamp) = some after.lastTimestamp := by
  unfold clockAfter acceptedHeader?
  cases h with
  | forged expected received hread => simp [hread]
  | malformed e hread he => simp [hread]
  | greeting header hread => simp [hread]
  | unfit header body error hread hbody => simp [hread, hbody]
  | usable header body answer hread hbody => simp [hread, hbody]

/-- The session after an attempt keeps what the deeds say. -/
theorem Attempted.keeps {s after : Session} {timeout : Millis} {request : Request}
    {verdict : Verdict} {done : List Entry}
    (h : Attempted s timeout request verdict after done) (token : Token) (before : List Entry)
    (command : Command) (id : UInt32) (hs : Keeps token s before)
    (hcommand : latestCommand before = some command)
    (hrequest : request = requestOf command.method command.params command.extra id) :
    Keeps token after (done ++ before) ∧ latestCommand (done ++ before) = some command := by
  have hsent (deviceId : UInt32) (frame : Octets) (hid : s.deviceId? = some deviceId)
      (hframe : Frame.encode request deviceId s.nextTimestamp s.token = .ok frame) :
      SentWell token before frame := by
    rw [hs.token_eq] at hframe
    have hcarries := Frame.carries_of_encode request deviceId _ token frame hframe
    obtain ⟨hdevice, hclock⟩ := hs.device deviceId hid
    rw [hrequest] at hcarries
    exact Or.inr ⟨command, id, deviceId, _, hcommand, hdevice, hclock, hcarries⟩
  cases h with
  | unready | unframed => exact ⟨hs, hcommand⟩
  | unanswered deviceId frame e done hid hframe hdone =>
    have hwell := hsent deviceId frame hid hframe
    obtain ⟨hsame, hlatest⟩ := hdone.latest_eq before
    refine ⟨⟨hs.token_eq, ?_, hdone.allDoneWell hwell hs.well⟩, hlatest.trans hcommand⟩
    intro id' hid'
    rw [hsame, hdone.latestClock_error]
    exact hs.device id' hid'
  | answered deviceId frame reply done address hid hframe hdone =>
    have hwell := hsent deviceId frame hid hframe
    obtain ⟨hsame, hlatest⟩ := hdone.latest_eq before
    obtain ⟨htoken, hdevice, hclock⟩ := (s.judged address request.method reply).keeps
    refine ⟨⟨htoken.trans hs.token_eq, ?_, hdone.allDoneWell hwell hs.well⟩,
      hlatest.trans hcommand⟩
    intro id' hid'
    rw [hdevice] at hid'
    obtain ⟨hbefore, hbeforeClock⟩ := hs.device id' hid'
    rw [hsame, hdone.latestClock_ok, hbeforeClock, ← hs.token_eq]
    exact ⟨hbefore, hclock⟩

/-- The session in which a request is made again keeps what the deeds say. -/
theorem Keeps.again {token : Token} {s next : Session} {done : List Entry} {verdict : Verdict}
    {due : Bool} (h : Keeps token s done) (hnext : verdict.again? s = some (due, next)) :
    Keeps token next done := by
  cases verdict with
  | success _ | fatal _ => cases hnext
  | recoverable report =>
    cases hnext
    exact h
  | transport e =>
    cases hnext
    exact Keeps.invalidate h.token_eq h.well

/-- The end of an attempt at a request of the latest command is done well. -/
theorem Keeps.attempt {token : Token} {s : Session} {done : List Entry} {command : Command}
    (h : Keeps token s done) (hcommand : latestCommand done = some command) (id : UInt32)
    (verdict : Verdict) :
    Keeps token s
      (.attempt (requestOf command.method command.params command.extra id) verdict :: done) :=
  ⟨h.token_eq, h.device, ⟨⟨command, id, hcommand, rfl⟩, h.well⟩⟩

/-- Through a turn the session keeps what the deeds say, and no other command is given. -/
theorem Turn.keeps {timeout : Millis} {attempts : Nat} {method : String} {params : Json}
    {extra : List (String × Json)} {due : Bool} {s after : Session} {verdict : Verdict}
    {done : List Entry}
    (h : Turn timeout attempts method params extra due s verdict after done) (token : Token)
    (before : List Entry) (hs : Keeps token s before)
    (hcommand : latestCommand before = some ⟨method, params, extra⟩) :
    Keeps token after (done ++ before) ∧
      latestCommand (done ++ before) = some ⟨method, params, extra⟩ := by
  obtain ⟨ready, _, earlier, done, _, hearlier, hdone⟩ := h
  obtain ⟨hready, hsame⟩ := hearlier.keeps token before hs
  obtain ⟨hafter, hlatest⟩ := hdone.keeps token (earlier ++ before) ⟨method, params, extra⟩
    ready.nextId.currentId hready.nextId (hsame.trans hcommand) rfl
  rw [List.cons_append, List.append_assoc]
  exact ⟨hafter.attempt hlatest _ verdict, hlatest⟩

/-- Through a call the session keeps what the deeds say. -/
theorem Course.keeps {timeout : Millis} {attempts : Nat} {method : String} {params : Json}
    {extra : List (String × Json)} {retries made : Nat} {due : Bool} {s last : Session}
    {result : Except DeviceError Json} {done : List Entry}
    (h : Course timeout attempts method params extra retries due made s result last done)
    (token : Token) (before : List Entry) (hs : Keeps token s before)
    (hcommand : latestCommand before = some ⟨method, params, extra⟩) :
    Keeps token last (done ++ before) := by
  induction h generalizing before with
  | unreached retries due made s address done hdue hdone =>
    exact Keeps.invalidate hs.token_eq (hdone.latest_eq token before hs.well).1
  | ended retries due made s after done verdict result hturn hresult =>
    exact (hturn.keeps token before hs hcommand).1
  | spent due made s after done verdict e hturn hresult =>
    exact (hturn.keeps token before hs hcommand).1
  | again retries due made s after next last done later verdict dueNext result hturn hnext hlater
      ih =>
    obtain ⟨hafter, hlatest⟩ := hturn.keeps token before hs hcommand
    rw [List.append_assoc]
    exact ih _ (hafter.again hnext) hlatest

end Appliance
