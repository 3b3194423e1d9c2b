import Appliance.Proofs.HandshakePlacement

/-!
# Which errors calls end in

An error of a call says where it comes from, and each kind of call has its own range of them. A
handshake asked for can only be left unanswered. A command hides every failure of the transport
behind the count of its attempts and every forged reply behind the device's address; what it lets
through of the protocol are the faults of a malformed reply and of a request that is too large. A
device asked about itself gives the errors of its command, those of the protocol turned into the
one that says that nothing can be learnt.

That no command ends for want of a session is no matter of one attempt: it holds because every
attempt of a command is made in a session.
-/

namespace Appliance

/-- The errors of the protocol that a command can end in. -/
def ProtocolError.isOfCommand : ProtocolError → Bool
  | .frameTooShort _ _ | .invalidMagic _ | .lengthMismatch _ _ | .decrypt | .payload _
  | .payloadTooLarge _ _ => true
  | .checksumMismatch _ _ | .invalidToken _ | .sessionNotInitialized => false

/-- The errors that a command can end in. -/
def DeviceError.isOfCommand : DeviceError → Bool
  | .protocol e => e.isOfCommand
  | .unreachable _ _ | .noResponse _ _ | .invalidToken _ | .device _ _ | .invalidResponse _ => true
  | .transport _ | .conversion _ | .infoUnavailable _ => false

/-- The fault of a malformed frame is one that a command can end in. -/
theorem ProtocolError.isOfCommand_of_isMalformed (e : ProtocolError) (h : e.isMalformed = true) :
    e.isOfCommand = true := by
  cases e with
  | frameTooShort _ _ | invalidMagic _ | lengthMismatch _ _ | decrypt | payload _ => rfl
  | checksumMismatch _ _ | payloadTooLarge _ _ | invalidToken _ | sessionNotInitialized => cases h

/-! ## Attempts -/

/-- A reply that is of no use, or that refuses for good, ends its command in an error of commands. -/
theorem Judged.isOfCommand {s after : Session} {address method : String} {reply : Octets}
    {verdict : Verdict} (h : Judged s address method reply verdict after) (e : DeviceError)
    (he : verdict = .fatal e) : e.isOfCommand = true := by
  cases h with
  | forged expected received hread =>
    cases he
    rfl
  | malformed fault hread hfault =>
    cases he
    exact fault.isOfCommand_of_isMalformed hfault
  | greeting header hread =>
    cases he
    rfl
  | unfit header body error hread hbody =>
    cases he
    rfl
  | usable header body answer hread hbody =>
    obtain ⟨code, message, rfl⟩ := Verdict.eq_device_of_ofReply answer e he
    rfl

/-- In a session with a device, an attempt ends its command only in an error of commands. -/
theorem Attempted.isOfCommand {s after : Session} {timeout : Millis} {request : Request}
    {verdict : Verdict} {done : List Entry}
    (h : Attempted s timeout request verdict after done) (hready : s.isReady = true)
    (e : DeviceError) (he : verdict = .fatal e) : e.isOfCommand = true := by
  cases h with
  | unready hid => simp [Session.isReady, hid] at hready
  | unframed deviceId fault hid hframe =>
    obtain ⟨size, max, rfl⟩ := Frame.encode_request_error request deviceId _ s.token fault hframe
    cases he
    rfl
  | unanswered deviceId frame fault done hid hframe hdone => cases he
  | answered deviceId frame reply done address hid hframe hdone =>
    exact (s.judged address request.method reply).isOfCommand e he

/-! ## Commands -/

section

variable {timeout : Millis} {attempts : Nat} {method : String} {params : Json}
  {extra : List (String × Json)} {due : Bool} {s after : Session}

/-- The attempt of a turn is made in a session, so that it ends its command only in an error of
commands. -/
theorem Turn.isOfCommand {verdict : Verdict} {done : List Entry}
    (h : Turn timeout attempts method params extra due s verdict after done) (e : DeviceError)
    (he : verdict = .fatal e) : e.isOfCommand = true := by
  cases h with
  | intro ready after before done verdict hbefore hdone =>
    exact hdone.isOfCommand hbefore.isReady e he

/-- What ends a command for want of retries is an error of commands. -/
theorem Verdict.isOfCommand_of_exhausted? {made : Nat} (v : Verdict) (e : DeviceError)
    (h : v.exhausted? made = some e) : e.isOfCommand = true := by
  cases v with
  | success value => cases h
  | fatal fault => cases h
  | recoverable report =>
    cases h
    rfl
  | transport fault =>
    cases h
    rfl

/-- A command ends only in an error of commands. -/
theorem Course.isOfCommand {retries made : Nat} {result : Except DeviceError Json} {last : Session}
    {done : List Entry}
    (h : Course timeout attempts method params extra retries due made s result last done)
    (e : DeviceError) (he : result = .error e) : e.isOfCommand = true := by
  induction h with
  | unreached retries due made s address done hdue hdone =>
    cases he
    rfl
  | ended retries due made s after done verdict result hturn hresult =>
    cases verdict with
    | success value =>
      cases hresult
      cases he
    | fatal fault =>
      cases hresult
      cases he
      exact hturn.isOfCommand e rfl
    | recoverable report => cases hresult
    | transport fault => cases hresult
  | spent due made s after done verdict fault hturn hresult =>
    cases he
    exact verdict.isOfCommand_of_exhausted? e hresult
  | again retries due made s after next last done later verdict dueNext result hturn hnext hlater
      ih => exact ih he

end

namespace Device

variable {σ : Type}

/-- A command ends only in an error of commands. -/
theorem isOfCommand_of_sendWith (d : Device σ) (method : String) (params : Json)
    (options : SendOptions) (e : DeviceError)
    (h : (d.sendWith method params options).1 = .error e) : e.isOfCommand = true := by
  obtain ⟨done, hcourse, -⟩ := d.exists_course_sendWith method params options
  exact hcourse.isOfCommand e h

/-- Pieces of properties asked for in turn give only errors of commands. -/
theorem isOfCommand_of_collect (getter : String) (all : List (List Json)) (values : List Json)
    (d : Device σ) (e : DeviceError) (h : (collect getter all values d).1 = .error e) :
    e.isOfCommand = true := by
  induction all generalizing values d with
  | nil => cases h
  | cons piece rest ih =>
    have hsend := d.isOfCommand_of_sendWith getter (.array piece) .default
    unfold collect send at h
    generalize d.sendWith getter (.array piece) .default = sent at hsend h
    obtain ⟨result, after⟩ := sent
    cases result with
    | error fault =>
      cases h
      exact hsend e rfl
    | ok v =>
      cases v with
      | array more => exact ih (values ++ more) after h
      | null | bool _ | number _ | string _ | object _ =>
        cases h
        rfl

/-- Properties asked for give only errors of commands. -/
theorem isOfCommand_of_getProperties (d : Device σ) (properties : List Json)
    (getter : Option String) (most : Option Nat) (e : DeviceError)
    (h : (d.getProperties properties getter most).1 = .error e) : e.isOfCommand = true := by
  have hcollect := isOfCommand_of_collect (getter.getD propertyMethod)
    (pieces (pieceSize properties.length most) properties.length properties) [] d
  unfold getProperties at h
  dsimp only at h
  generalize collect (getter.getD propertyMethod)
    (pieces (pieceSize properties.length most) properties.length properties) [] d = collected
    at hcollect h
  obtain ⟨result, after⟩ := collected
  cases result with
  | error fault =>
    cases h
    exact hcollect e rfl
  | ok values =>
    dsimp only at h
    split at h <;> cases h

/-! ## What a device tells about itself -/

/-- The end of the command by which a device is asked about itself. -/
def asked (d : Device σ) : Except DeviceError Json :=
  ((d.note .infoRequested).send infoMethod (.array [])).1

/-- What is learnt of a device by the end of the command that asks about it. -/
def learnt : Except DeviceError Json → Except DeviceError DeviceInfo
  | .error (.protocol e) => .error (.infoUnavailable (.undecodable e))
  | .error e => .error e
  | .ok v => (convert v).mapError fun e => .infoUnavailable (.unfit e)

/-- A device asked about itself gives what is learnt by its command. -/
theorem info_eq_learnt (d : Device σ) : d.info.1 = learnt d.asked := by
  unfold info asked
  generalize (d.note .infoRequested).send infoMethod (.array []) = sent
  obtain ⟨result, after⟩ := sent
  cases result with
  | error e => cases e <;> rfl
  | ok v =>
    dsimp only [learnt]
    cases (convert v : Except ConversionError DeviceInfo) <;> rfl

/-- Something is learnt exactly if a value comes that fits. -/
theorem learnt_eq_ok_iff (sent : Except DeviceError Json) (told : DeviceInfo) :
    learnt sent = .ok told ↔ ∃ v, sent = .ok v ∧ convert v = .ok told := by
  cases sent with
  | error e => cases e <;> simp [learnt]
  | ok v =>
    cases hv : (convert v : Except ConversionError DeviceInfo) <;>
      simp [learnt, hv, Except.mapError]

/-- Nothing can be learnt exactly if the command ends in an error of the protocol or in a value that
does not fit, unless the command itself says so. -/
theorem learnt_eq_infoUnavailable_iff (sent : Except DeviceError Json) (fault : InfoFault)
    (hsent : sent ≠ .error (.infoUnavailable fault)) :
    learnt sent = .error (.infoUnavailable fault) ↔
      (∃ e, sent = .error (.protocol e) ∧ fault = .undecodable e) ∨
        ∃ v e, sent = .ok v ∧ (convert v : Except ConversionError DeviceInfo) = .error e ∧
          fault = .unfit e := by
  cases sent with
  | error e => cases e <;> simp_all [learnt, eq_comm]
  | ok v =>
    cases hv : (convert v : Except ConversionError DeviceInfo) <;>
      simp [learnt, hv, Except.mapError, eq_comm]

/-- All other errors are those of the command. -/
theorem learnt_eq_error_iff (sent : Except DeviceError Json) (e : DeviceError)
    (hprotocol : ∀ fault, e ≠ .protocol fault) (hinfo : ∀ fault, e ≠ .infoUnavailable fault) :
    learnt sent = .error e ↔ sent = .error e := by
  cases sent with
  | error e' => cases e' <;> simp_all [learnt, eq_comm]
  | ok v =>
    cases hv : (convert v : Except ConversionError DeviceInfo) <;>
      simp_all [learnt, Except.mapError, eq_comm]

/-- An error says that nothing can be learnt, or it is that of the command and none of the protocol. -/
theorem learnt_eq_error_cases (sent : Except DeviceError Json) (e : DeviceError)
    (h : learnt sent = .error e) :
    (∃ fault, e = .infoUnavailable fault) ∨
      (sent = .error e ∧ ∀ fault, e ≠ .protocol fault) := by
  by_cases hinfo : ∃ fault, e = .infoUnavailable fault
  · exact Or.inl hinfo
  · right
    have hprotocol : ∀ fault, e ≠ .protocol fault := by
      rintro fault rfl
      cases sent with
      | error e' => cases e' <;> simp [learnt] at h
      | ok v =>
        cases hv : (convert v : Except ConversionError DeviceInfo) <;>
          simp [learnt, hv, Except.mapError] at h
    have hother : ∀ fault, e ≠ .infoUnavailable fault := fun fault he => hinfo ⟨fault, he⟩
    exact ⟨(learnt_eq_error_iff sent e hprotocol hother).mp h, hprotocol⟩

/-! ## All calls -/

/-- A handshake asked for can only be left unanswered. A command, and properties asked for, end only
in errors of commands: none of the transport, of a conversion or about what the device tells, and of
the protocol none for a forged reply, a token or want of a session. A device asked about itself gives
what its command brings if that fits; it says that nothing can be learnt exactly if the command ends in
an error of the protocol or in a value that does not fit; and all its other errors are those of the
command. -/
theorem errors_of_calls (d : Device σ) :
    (∀ e, d.sendHandshake.1 = .error e → ∃ address attempts, e = .unreachable address attempts) ∧
    (∀ method params options e, (d.sendWith method params options).1 = .error e →
      e.isOfCommand = true) ∧
    (∀ method params e, (d.send method params).1 = .error e → e.isOfCommand = true) ∧
    (∀ properties getter most e, (d.getProperties properties getter most).1 = .error e →
      e.isOfCommand = true) ∧
    (∀ e, d.info.1 = .error e →
      (∃ fault, e = .infoUnavailable fault) ∨
        (e.isOfCommand = true ∧ ∀ fault, e ≠ .protocol fault)) ∧
    (∀ told, d.info.1 = .ok told ↔ ∃ v, d.asked = .ok v ∧ convert v = .ok told) ∧
    (∀ fault, d.info.1 = .error (.infoUnavailable fault) ↔
      (∃ e, d.asked = .error (.protocol e) ∧ fault = .undecodable e) ∨
        ∃ v e, d.asked = .ok v ∧ (convert v : Except ConversionError DeviceInfo) = .error e ∧
          fault = .unfit e) ∧
    ∀ e, (∀ fault, e ≠ .protocol fault) → (∀ fault, e ≠ .infoUnavailable fault) →
      (d.info.1 = .error e ↔ d.asked = .error e) := by
  have hasked (e : DeviceError) (he : d.asked = .error e) : e.isOfCommand = true :=
    (d.note .infoRequested).isOfCommand_of_sendWith infoMethod (.array []) .default e he
  rw [info_eq_learnt]
  refine ⟨?_, d.isOfCommand_of_sendWith, ?_, d.isOfCommand_of_getProperties, ?_,
    learnt_eq_ok_iff d.asked, ?_, learnt_eq_error_iff d.asked⟩
  · intro e he
    obtain ⟨header?, done, address, -, hresult, -⟩ :=
      exists_greeting_handshakeLoop (greetingsOf d.config) (greetingsOf d.config) d
    cases header? with
    | some header =>
      cases hresult.symm.trans he
    | none =>
      cases hresult.symm.trans he
      exact ⟨address, _, rfl⟩
  · intro method params e he
    exact d.isOfCommand_of_sendWith method params .default e he
  · intro e he
    obtain hinfo | ⟨hsent, hprotocol⟩ := learnt_eq_error_cases d.asked e he
    · exact Or.inl hinfo
    · exact Or.inr ⟨hasked e hsent, hprotocol⟩
  · intro fault
    refine learnt_eq_infoUnavailable_iff d.asked fault ?_
    intro he
    cases hasked _ he

end Device

end Appliance
