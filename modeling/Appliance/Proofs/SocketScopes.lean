import Appliance.Proofs.Runs

/-!
# No connection outlives its exchange

The operations of a transport in a run fall into scopes, one for each exchange that a handshake or a
request makes. A scope opens a connection or fails to; one that is opened takes one datagram, waits for
a reply if the datagram could be sent, and is closed by its last operation. A request that fits no frame
makes no exchange and has no scope.

Scopes are kept in the order in which they are opened, while deeds are kept as a journal is.
-/

namespace Appliance

/-! ## Operations -/

/-- The operation of a transport, if an entry tells of one. -/
def Entry.wire? : Entry → Option Wire
  | .wire operation => some operation
  | .handshake _ | .command _ _ _ | .attempt _ _ | .note _ => none

/-- The operations of a transport among some deeds, the earliest first. -/
def operations (done : List Entry) : List Wire := (done.filterMap Entry.wire?).reverse

/-- No deeds, no operations. -/
@[simp] theorem operations_nil : operations [] = [] := rfl

/-- Deeds follow one another, the later ones in front. -/
@[simp] theorem operations_append (later before : List Entry) :
    operations (later ++ before) = operations before ++ operations later := by
  rw [operations, List.filterMap_append, List.reverse_append]
  rfl

/-- The end of a handshake is no operation. -/
@[simp] theorem operations_handshake (result : Except DeviceError Header) (before : List Entry) :
    operations (.handshake result :: before) = operations before := rfl

/-- The start of a command is no operation. -/
@[simp] theorem operations_command (method : String) (params : Json) (extra : List (String × Json))
    (before : List Entry) : operations (.command method params extra :: before) = operations before :=
  rfl

/-- The end of an attempt is no operation. -/
@[simp] theorem operations_attempt (request : Request) (v : Verdict) (before : List Entry) :
    operations (.attempt request v :: before) = operations before := rfl

namespace Wire

/-- A connection is opened, or fails to be. -/
def isConnect : Wire → Bool
  | .connect _ => true
  | .send _ _ | .receive _ _ | .disconnect _ => false

/-- A connection is closed, or fails to be. -/
def isDisconnect : Wire → Bool
  | .disconnect _ => true
  | .connect _ | .send _ _ | .receive _ _ => false

/-- The datagram that is sent, or fails to be. -/
def datagram? : Wire → Option Octets
  | .send data _ => some data
  | .connect _ | .receive _ _ | .disconnect _ => none

end Wire

/-- The datagrams among some operations. -/
def datagrams (ws : List Wire) : List Octets := ws.filterMap Wire.datagram?

/-- The operations up to the next time that a connection is opened, or fails to be. -/
def untilConnect (ws : List Wire) : List Wire := ws.takeWhile fun w => !w.isConnect

/-! ## Scopes -/

/-- The operations of one exchange, in order. -/
inductive IsScope : List Wire → Prop
  /-- No connection could be opened. -/
  | unopened (e : TransportError) : IsScope [.connect (.error e)]
  /-- The datagram could not be sent. -/
  | unsent (data : Octets) (e : TransportError) (closed : Except TransportError Unit) :
      IsScope [.connect (.ok ()), .send data (.error e), .disconnect closed]
  /-- A reply was waited for. -/
  | asked (data : Octets) (timeout : Millis) (reply : Except TransportError Octets)
      (closed : Except TransportError Unit) :
      IsScope [.connect (.ok ()), .send data (.ok ()), .receive timeout reply, .disconnect closed]

/-- The operations of an exchange are a scope. -/
theorem Exchanged.isScope {data : Octets} {timeout : Millis}
    {reply : Except TransportError Octets} {done : List Entry}
    (h : Exchanged data timeout reply done) : IsScope (operations done) := by
  cases h with
  | unconnected e => exact .unopened e
  | unsent e closed => exact .unsent data e closed
  | asked reply closed => exact .asked data timeout reply closed

/-- Deeds whose exchanges have scopes: each handshake and each request in a frame is an exchange with
a scope of its own, which lies right before the entry of its end, and nothing else has operations. -/
inductive Scoped (timeout : Millis) : List Entry → List (List Wire) → Prop
  | nothing : Scoped timeout [] []
  | command (method : String) (params : Json) (extra : List (String × Json)) (before : List Entry)
      (scopes : List (List Wire)) (h : Scoped timeout before scopes) :
      Scoped timeout (.command method params extra :: before) scopes
  | handshake (reply : Except TransportError Octets) (done before : List Entry)
      (scopes : List (List Wire)) (hdone : Exchanged Frame.handshake timeout reply done)
      (h : Scoped timeout before scopes) :
      Scoped timeout (.handshake (Transport.headerOfReply reply) :: (done ++ before))
        (scopes ++ [operations done])
  /-- A request that fits no frame. -/
  | unframed (request : Request) (deviceId timestamp : UInt32) (token : Token) (e : ProtocolError)
      (before : List Entry) (scopes : List (List Wire))
      (hframe : Frame.encode request deviceId timestamp token = .error e)
      (h : Scoped timeout before scopes) :
      Scoped timeout (.attempt request (.fatal (.protocol e)) :: before) scopes
  | request (request : Request) (deviceId timestamp : UInt32) (token : Token) (frame : Octets)
      (reply : Except TransportError Octets) (verdict : Verdict) (done before : List Entry)
      (scopes : List (List Wire))
      (hframe : Frame.encode request deviceId timestamp token = .ok frame)
      (hdone : Exchanged frame timeout reply done)
      (hverdict : ∀ e, verdict = .transport e ↔ reply = .error e)
      (h : Scoped timeout before scopes) :
      Scoped timeout (.attempt request verdict :: (done ++ before)) (scopes ++ [operations done])

namespace Scoped

variable {timeout : Millis} {later before : List Entry} {scopes laterScopes : List (List Wire)}

/-- The operations are those of the scopes. -/
theorem operations_eq (h : Scoped timeout before scopes) :
    operations before = scopes.flatten := by
  induction h with
  | nothing => rfl
  | command method params extra before scopes _ ih => exact ih
  | unframed request deviceId timestamp token e before scopes _ _ ih => exact ih
  | handshake reply done before scopes _ _ ih =>
    rw [operations_handshake, operations_append, ih]
    simp
  | request request deviceId timestamp token frame reply verdict done before scopes _ _ _ _ ih =>
    rw [operations_attempt, operations_append, ih]
    simp

/-- Each of the scopes is that of an exchange. -/
theorem isScope (h : Scoped timeout before scopes) : ∀ scope ∈ scopes, IsScope scope := by
  induction h with
  | nothing => nofun
  | command method params extra before scopes _ ih => exact ih
  | unframed request deviceId timestamp token e before scopes _ _ ih => exact ih
  | handshake reply done before scopes hdone _ ih =>
    simp only [List.forall_mem_append, List.forall_mem_singleton]
    exact ⟨ih, hdone.isScope⟩
  | request request deviceId timestamp token frame reply verdict done before scopes _ hdone _ _ ih =>
    simp only [List.forall_mem_append, List.forall_mem_singleton]
    exact ⟨ih, hdone.isScope⟩

/-- Deeds follow one another, and so do their scopes. -/
theorem append (hlater : Scoped timeout later laterScopes) (h : Scoped timeout before scopes) :
    Scoped timeout (later ++ before) (scopes ++ laterScopes) := by
  induction hlater with
  | nothing =>
    rw [List.append_nil]
    exact h
  | command method params extra _ _ _ ih => exact .command method params extra _ _ ih
  | unframed request deviceId timestamp token e _ _ hframe _ ih =>
    exact .unframed request deviceId timestamp token e _ _ hframe ih
  | handshake reply done _ _ hdone _ ih =>
    rw [List.cons_append, List.append_assoc, ← List.append_assoc scopes]
    exact .handshake reply done _ _ hdone ih
  | request request deviceId timestamp token frame reply verdict done _ _ hframe hdone hverdict _
      ih =>
    rw [List.cons_append, List.append_assoc, ← List.append_assoc scopes]
    exact .request request deviceId timestamp token frame reply verdict done _ _ hframe hdone
      hverdict ih

end Scoped

/-! ## Calls -/

/-- Every handshake has a scope. -/
theorem Greeting.exists_scoped {timeout : Millis} {attempts : Nat} {header? : Option Header}
    {done : List Entry} (h : Greeting timeout attempts header? done) :
    ∃ scopes, Scoped timeout done scopes := by
  induction h with
  | unanswered => exact ⟨[], .nothing⟩
  | answered left reply done header hdone hreply =>
    have hscoped := Scoped.handshake reply done [] [] hdone .nothing
    rw [hreply, List.append_nil] at hscoped
    exact ⟨_, hscoped⟩
  | missed left reply done e header? later hdone hreply hlater ih =>
    obtain ⟨scopes, hscopes⟩ := ih
    have hscoped := Scoped.handshake reply done [] [] hdone .nothing
    rw [hreply, List.append_nil] at hscoped
    exact ⟨_, hscopes.append hscoped⟩

/-- So has every handshake on the way to a request. -/
theorem Prepared.exists_scoped {s ready : Session} {timeout : Millis} {attempts : Nat} {due : Bool}
    {done : List Entry} (h : Prepared s timeout attempts due ready done) :
    ∃ scopes, Scoped timeout done scopes := by
  cases h with
  | kept => exact ⟨[], .nothing⟩
  | greeted header done hdue hdone => exact hdone.exists_scoped

/-- A response is no failure of the transport. -/
theorem Verdict.ofReply_ne_transport (answer : Reply) (e : TransportError) :
    Verdict.ofReply answer ≠ .transport e := by
  cases answer with
  | result value => nofun
  | error report =>
    unfold Verdict.ofReply
    dsimp only
    split <;> nofun

/-- Neither is any reply that comes. -/
theorem Judged.ne_transport {s after : Session} {address method : String} {reply : Octets}
    {verdict : Verdict} (h : Judged s address method reply verdict after) (e : TransportError) :
    verdict ≠ .transport e := by
  cases h with
  | forged | malformed | greeting | unfit => nofun
  | usable header body answer hread hbody => exact Verdict.ofReply_ne_transport answer e

section

variable {timeout : Millis} {attempts : Nat} {method : String} {params : Json}
  {extra : List (String × Json)} {s after : Session}

/-- An attempt in a session with the device has a scope if its request fits a frame. -/
theorem Attempted.exists_scoped {request : Request} {verdict : Verdict} {done before : List Entry}
    {scopes : List (List Wire)} (h : Attempted s timeout request verdict after done)
    (hready : s.isReady = true) (hbefore : Scoped timeout before scopes) :
    ∃ scopes, Scoped timeout (.attempt request verdict :: (done ++ before)) scopes := by
  cases h with
  | unready hid =>
    rw [Session.isReady, hid] at hready
    cases hready
  | unframed deviceId e hid hframe =>
    exact ⟨_, .unframed request deviceId _ _ e before scopes hframe hbefore⟩
  | unanswered deviceId frame e done hid hframe hdone =>
    refine ⟨_, .request request deviceId _ _ frame (.error e) _ done before scopes hframe hdone ?_
      hbefore⟩
    intro e'
    rw [Verdict.transport.injEq, Except.error.injEq]
  | answered deviceId frame reply done address hid hframe hdone =>
    refine ⟨_, .request request deviceId _ _ frame (.ok reply) _ done before scopes hframe hdone ?_
      hbefore⟩
    intro e
    exact iff_of_false ((s.judged address request.method reply).ne_transport e) nofun

/-- A turn has a scope for each of its exchanges. -/
theorem Turn.exists_scoped {due : Bool} {verdict : Verdict} {done : List Entry}
    (h : Turn timeout attempts method params extra due s verdict after done) :
    ∃ scopes, Scoped timeout done scopes := by
  cases h with
  | intro ready after before done verdict hbefore hdone =>
    obtain ⟨scopes, hscopes⟩ := hbefore.exists_scoped
    exact hdone.exists_scoped hbefore.isReady hscopes

/-- So has a command. -/
theorem Course.exists_scoped {retries made : Nat} {due : Bool} {last : Session}
    {result : Except DeviceError Json} {done : List Entry}
    (h : Course timeout attempts method params extra retries due made s result last done) :
    ∃ scopes, Scoped timeout done scopes := by
  induction h with
  | unreached retries due made s address done hdue hdone => exact hdone.exists_scoped
  | ended retries due made s after done v result hturn hresult => exact hturn.exists_scoped
  | spent due made s after done v e hturn hresult => exact hturn.exists_scoped
  | again retries due made s after next last done later v dueNext result hturn hnext hlater ih =>
    obtain ⟨laterScopes, hlaterScopes⟩ := ih
    obtain ⟨scopes, hscopes⟩ := hturn.exists_scoped
    exact ⟨_, hlaterScopes.append hscopes⟩

end

namespace Device

variable {σ : Type}

/-- What a device does on its way to another has a scope for each of its exchanges, and leaves the
settings as they are. -/
theorem Onward.exists_scoped {d d' : Device σ} {issued : List Command} (h : Onward d d' issued) :
    (∃ done scopes, d'.deeds = done ++ d.deeds ∧ Scoped d.config.timeout done scopes) ∧
      d'.config = d.config := by
  induction h with
  | here => exact ⟨⟨[], [], rfl, .nothing⟩, rfl⟩
  | note d' issued n _ ih => exact ih
  | handshake d' issued _ ih =>
    obtain ⟨⟨done, scopes, hdeeds, hscopes⟩, hconfig⟩ := ih
    obtain ⟨header?, later, hlater, hlaterDeeds, -, hlaterConfig⟩ :=
      d'.exists_greeting_sendHandshake
    obtain ⟨laterScopes, hlaterScopes⟩ := hlater.exists_scoped
    rw [hconfig] at hlaterScopes
    refine ⟨⟨later ++ done, _, ?_, hlaterScopes.append hscopes⟩, hlaterConfig.trans hconfig⟩
    rw [hlaterDeeds, hdeeds, List.append_assoc]
  | command d' issued method params options _ ih =>
    obtain ⟨⟨done, scopes, hdeeds, hscopes⟩, hconfig⟩ := ih
    obtain ⟨later, hlater, hlaterDeeds, hlaterConfig⟩ :=
      d'.exists_course_sendWith method params options
    obtain ⟨laterScopes, hlaterScopes⟩ := hlater.exists_scoped
    rw [hconfig] at hlaterScopes
    refine ⟨⟨later ++ .command method params options.extra :: done, _, ?_,
      hlaterScopes.append (.command method params options.extra done scopes hscopes)⟩,
      hlaterConfig.trans hconfig⟩
    rw [hlaterDeeds, hdeeds]
    simp

end Device

/-! ## What lies between two connections -/

namespace IsScope

variable {scope : List Wire}

/-- A scope starts where a connection is opened or fails to be, and nowhere else is one. -/
theorem exists_eq_cons (h : IsScope scope) :
    ∃ answer rest, scope = .connect answer :: rest ∧ ∀ w ∈ rest, w.isConnect = false := by
  cases h <;> exact ⟨_, _, rfl, by simp [Wire.isConnect]⟩

/-- What a scope does after a connection is opened: it sends one datagram, and closing comes last and
once. Where none is opened it does nothing. -/
theorem of_eq_cons {answer : Except TransportError Unit} {rest : List Wire} (h : IsScope scope)
    (heq : scope = .connect answer :: rest) :
    (answer = .ok () ∧ (datagrams rest).length = 1 ∧ rest.countP Wire.isDisconnect = 1 ∧
        ∃ closed, rest.getLast? = some (.disconnect closed)) ∨
      ((∃ e, answer = .error e) ∧ rest = []) := by
  cases h with
  | unopened e =>
    cases heq
    exact Or.inr ⟨⟨e, rfl⟩, rfl⟩
  | unsent data e closed =>
    cases heq
    exact Or.inl ⟨rfl, rfl, rfl, closed, rfl⟩
  | asked data timeout reply closed =>
    cases heq
    exact Or.inl ⟨rfl, rfl, rfl, closed, rfl⟩

end IsScope

section

variable {scopes : List (List Wire)}

/-- Scopes start where a connection is opened or fails to be. -/
theorem untilConnect_flatten (h : ∀ scope ∈ scopes, IsScope scope) :
    untilConnect scopes.flatten = [] := by
  cases scopes with
  | nil => rfl
  | cons scope scopes =>
    obtain ⟨answer, rest, rfl, -⟩ := (h scope List.mem_cons_self).exists_eq_cons
    rfl

/-- Up to the next connection go the operations of a scope. -/
theorem untilConnect_append_flatten {rest : List Wire} (hrest : ∀ w ∈ rest, w.isConnect = false)
    (h : ∀ scope ∈ scopes, IsScope scope) : untilConnect (rest ++ scopes.flatten) = rest := by
  have hnone := untilConnect_flatten h
  rw [untilConnect] at hnone ⊢
  rw [List.takeWhile_append_of_pos (by simpa using hrest), hnone, List.append_nil]

/-- Where a connection is opened or fails to be, a scope starts, and it goes on up to the next
connection. -/
theorem isScope_of_connect (before : List Wire) {after : List Wire}
    {answer : Except TransportError Unit} (h : ∀ scope ∈ scopes, IsScope scope)
    (heq : scopes.flatten = before ++ .connect answer :: after) :
    IsScope (.connect answer :: untilConnect after) := by
  induction scopes generalizing before with
  | nil => simp at heq
  | cons scope scopes ih =>
    have hscope := h scope List.mem_cons_self
    have hscopes : ∀ scope ∈ scopes, IsScope scope :=
      fun scope hmem => h scope (List.mem_cons_of_mem _ hmem)
    obtain ⟨first, rest, rfl, hrest⟩ := hscope.exists_eq_cons
    rw [List.flatten_cons] at heq
    cases before with
    | nil =>
      rw [List.nil_append, List.cons_append, List.cons.injEq] at heq
      obtain ⟨hfirst, rfl⟩ := heq
      rw [untilConnect_append_flatten hrest hscopes, ← hfirst]
      exact hscope
    | cons w before =>
      rw [List.cons_append, List.cons_append, List.cons.injEq, List.append_eq_append_iff] at heq
      obtain ⟨-, ⟨more, -, heq⟩ | ⟨more, hmore, heq⟩⟩ := heq
      · exact ih more hscopes heq
      · cases more with
        | nil => exact ih [] hscopes heq.symm
        | cons x more =>
          -- The connection would lie inside of the first scope.
          cases heq
          have hinside := hrest (.connect answer) (by simp [hmore])
          cases hinside

end

end Appliance
