import Appliance.Proofs.HandshakePlacement
import Appliance.Proofs.RequestContent

/-!
# New sessions after failures

A failure of the transport leaves it open whether the device still knows the session. Within a call
the session is dropped then, and a handshake is answered before the request is made again. A call
whose retries are used up gives its error without dropping the session. Where the settings keep
sessions from call to call, the next call makes its first attempt in the session of the failure.

Between a failure and the next attempt a handshake is thus answered exactly if the two belong to one
call, if the settings ask for a handshake before every call, or if any handshake was made.
-/

namespace Appliance

/-- The start of a command is no end of an attempt. -/
@[simp] theorem verdicts_command (method : String) (params : Json) (extra : List (String × Json))
    (before : List Entry) : verdicts (.command method params extra :: before) = verdicts before :=
  rfl

/-- The start of a command is no handshake. -/
@[simp] theorem handshakes_command (method : String) (params : Json) (extra : List (String × Json))
    (before : List Entry) :
    handshakes (.command method params extra :: before) = handshakes before :=
  List.countP_cons_of_neg (by simp [Entry.isHandshake])

/-- Some handshake among some deeds is answered. -/
def Answered (done : List Entry) : Prop := ∃ header, .handshake (.ok header) ∈ done

/-- A handshake is answered among the later deeds or among those before. -/
@[simp] theorem answered_append (later before : List Entry) :
    Answered (later ++ before) ↔ Answered later ∨ Answered before := by
  simp [Answered, exists_or]

/-- The start of a command is no answer. -/
@[simp] theorem answered_command (method : String) (params : Json) (extra : List (String × Json))
    (before : List Entry) : Answered (.command method params extra :: before) ↔ Answered before := by
  simp [Answered]

/-- Where a handshake is answered, there are handshakes. -/
theorem Answered.handshakes_pos {done : List Entry} (h : Answered done) : 0 < handshakes done := by
  obtain ⟨header, hmem⟩ := h
  exact List.countP_pos_iff.mpr ⟨_, hmem, rfl⟩

/-- Where the latest handshake is answered, one is. -/
theorem Answered.of_latestHandshake {done : List Entry} {header : Header}
    (h : latestHandshake done = some (.ok header)) : Answered done :=
  ⟨header, mem_of_latestHandshake h⟩

/-- Where a handshake was due, and so made, one is answered. -/
theorem GreetsIf.answered_of_pos {due : Bool} {done : List Entry} (h : GreetsIf due done)
    (hpos : 0 < handshakes done) : Answered done := by
  obtain ⟨header, hlatest⟩ := h.answered (h.pos_iff.mp hpos)
  exact .of_latestHandshake hlatest

/-! ## The course of a call -/

section

variable {timeout : Millis} {attempts : Nat} {method : String} {params : Json}
  {extra : List (String × Json)} {retries made : Nat} {due : Bool} {s last : Session}
  {result : Except DeviceError Json} {done : List Entry}

/-- A call that reaches no device drops the session. Any other call keeps one, and its last deed is
an attempt. -/
theorem Course.last_cases
    (h : Course timeout attempts method params extra retries due made s result last done) :
    (last.isReady = false ∧ ∃ address tried, result = .error (.unreachable address tried)) ∨
      (last.isReady = true ∧ ∃ request v before, done = .attempt request v :: before) := by
  induction h with
  | unreached retries due made s address done hdue hgreeting =>
    exact Or.inl ⟨rfl, address, attempts, rfl⟩
  | ended retries due made s after done verdict result hturn hresult =>
    obtain ⟨hready, request, before, hdone, -⟩ := hturn.exists_greetsIf
    exact Or.inr ⟨hready, request, verdict, before, hdone⟩
  | spent due made s after done verdict e hturn hresult =>
    obtain ⟨hready, request, before, hdone, -⟩ := hturn.exists_greetsIf
    exact Or.inr ⟨hready, request, verdict, before, hdone⟩
  | again retries due made s after next last turn later verdict dueNext result hturn hnext hlater
      ih =>
    obtain hunreached | ⟨hready, request, v, before, hdone⟩ := ih
    · exact Or.inl hunreached
    · exact Or.inr ⟨hready, request, v, before ++ turn, congrArg (· ++ turn) hdone⟩

/-- A call that has a session and is not to make a handshake makes an attempt. -/
theorem Course.exists_first
    (h : Course timeout attempts method params extra retries due made s result last done)
    (hready : (due || !s.isReady) = false) :
    ∃ later request v before, done = later ++ .attempt request v :: before ∧
      verdicts before = [] := by
  obtain ⟨hdue, -⟩ | ⟨verdict, after, turn, rest, hturn, hdone⟩ := h.first_cases
  · simp [hready] at hdue
  · obtain ⟨-, request, before, hturn, hnone, -⟩ := hturn.exists_greetsIf
    rw [hturn] at hdone
    exact ⟨rest, request, verdict, before, hdone, hnone⟩

end

/-! ## Failures and the attempts after them -/

/-- Between a failure of the transport and the next attempt a handshake is answered exactly if no
command comes between them, handshakes are asked for, or there are any. And where there is a session
now, the handshakes since the latest attempt, if any, were answered. -/
structure Renews (lazy : Bool) (s : Session) (all : List Entry) : Prop where
  between : ∀ later between before request request' e verdict,
    all = later ++ .attempt request' verdict ::
      (between ++ .attempt request (.transport e) :: before) →
    verdicts between = [] →
    (Answered between ↔ commands between = [] ∨ lazy = false ∨ 0 < handshakes between)
  since : s.isReady = true → ∀ later before request verdict,
    all = later ++ .attempt request verdict :: before → verdicts later = [] →
    0 < handshakes later → Answered later

namespace Renews

variable {lazy : Bool} {s : Session} {all : List Entry}

/-- Handshakes that are answered make up for a failure, and the others drop the session. -/
theorem greeting (h : Renews lazy s all) {timeout : Millis} {attempts : Nat}
    {header? : Option Header} {done : List Entry}
    (hdone : Greeting timeout attempts header? done) :
    Renews lazy (Device.greeted s header?) (done ++ all) := by
  have hnone {later before : List Entry} {request : Request} {v : Verdict} :
      done ≠ later ++ .attempt request v :: before :=
    append_attempt_ne (verdicts_eq_nil hdone.isWire_or_isHandshake)
  refine ⟨?_, ?_⟩
  · intro later between before request request' e verdict hall hbetween
    obtain ⟨middle, hin, -⟩ | ⟨middle, -, hrest⟩ := append_eq_append_cons_cases hall
    · exact absurd hin hnone
    · exact h.between middle between before request request' e verdict hrest hbetween
  · intro hready later before request verdict hall hlater hpos
    obtain ⟨middle, hin, -⟩ | ⟨middle, hsplit, -⟩ := append_eq_append_cons_cases hall
    · exact absurd hin hnone
    · cases header? with
      | none => cases hready
      | some header =>
        rw [hsplit, answered_append]
        exact Or.inl (.of_latestHandshake (hdone.latestHandshake_eq header rfl))

/-- A call makes up for an earlier failure before its first attempt if it has no session or is to
make a handshake. -/
theorem answered_across (h : Renews lazy s all) {first earlier before : List Entry}
    {request : Request} {v : Verdict} (method : String) (params : Json)
    (extra : List (String × Json))
    (hfirst : GreetsIf (!s.isReady || !lazy || !s.isReady) first)
    (hall : all = earlier ++ .attempt request v :: before) (hearlier : verdicts earlier = []) :
    Answered (first ++ .command method params extra :: earlier) ↔
      commands (first ++ .command method params extra :: earlier) = [] ∨ lazy = false ∨
        0 < handshakes (first ++ .command method params extra :: earlier) := by
  constructor
  · intro hanswered
    exact Or.inr (Or.inr hanswered.handshakes_pos)
  · intro hwhen
    rw [answered_append, answered_command]
    by_cases hpos : 0 < handshakes first
    · exact Or.inl (hfirst.answered_of_pos hpos)
    · have hkept : (s.isReady = true ∧ lazy = true) ∧ s.isReady = true := by
        simpa [hfirst.pos_iff] using hpos
      obtain hnone | hlazy | hany := hwhen
      · simp at hnone
      · rw [hkept.1.2] at hlazy
        cases hlazy
      · rw [handshakes_append, handshakes_command] at hany
        exact Or.inr (h.since hkept.2 earlier before request v hall hearlier (by omega))

/-- A call makes up for a failure of its own at once, and for an earlier one before its first attempt
if it has no session or is to make a handshake. -/
theorem command (h : Renews lazy s all) {timeout : Millis} {attempts : Nat} {method : String}
    {params : Json} {extra : List (String × Json)} {retries made : Nat}
    {result : Except DeviceError Json} {last : Session} {done : List Entry}
    (hdone : Course timeout attempts method params extra retries (!s.isReady || !lazy) made s result
      last done) :
    Renews lazy last (done ++ .command method params extra :: all) := by
  refine ⟨?_, ?_⟩
  · intro later between before request request' e verdict hall hbetween
    obtain ⟨middle, hin, hrest⟩ | ⟨middle, -, hrest⟩ := append_eq_append_cons_cases hall
    · obtain ⟨rest, hmiddle, -⟩ | ⟨rest, hsplit, hbefore⟩ :=
        append_eq_append_cons_cases hrest.symm
      · -- Both attempts are made by this call.
        rw [hmiddle] at hin
        have hgreets := hdone.greetsIf_between hin hbetween
        have hcommands := hdone.commands_eq
        simp only [hin, commands_append, commands_attempt, List.append_eq_nil_iff] at hcommands
        simp [hcommands, hgreets.answered_of_pos (hgreets.pos_iff.mpr rfl)]
      · -- The failure is that of an earlier call, and this one makes its first attempt.
        cases rest with
        | nil => cases hbefore
        | cons e' earlier =>
          injection hbefore with hcommand hearlier
          rw [hsplit, ← hcommand] at hbetween ⊢
          simp only [verdicts_append, verdicts_command, List.append_eq_nil_iff] at hbetween
          exact h.answered_across method params extra (hdone.greetsIf_first hin hbetween.2) hearlier
            hbetween.1
    · cases middle with
      | nil => cases hrest
      | cons e' middle =>
        injection hrest with _ hearlier
        exact h.between middle between before request request' e verdict hearlier hbetween
  · intro hready later before request verdict hall hlater hpos
    obtain ⟨hdropped, -⟩ | ⟨-, request', v, before', hshape⟩ := hdone.last_cases
    · rw [hready] at hdropped
      cases hdropped
    · rw [hshape] at hall
      cases later with
      | nil => cases hpos
      | cons e later =>
        injection hall with hhead
        simp [← hhead] at hlater

end Renews

namespace Device

variable {σ : Type}

/-- On the way from one device to another failures are made up for as they were before. -/
theorem Onward.renews {d d' : Device σ} {issued : List Command} (h : Onward d d' issued)
    (hd : Renews d.config.lazyDiscover d.session d.deeds) :
    Renews d.config.lazyDiscover d'.session d'.deeds ∧ d'.config = d.config := by
  induction h with
  | here => exact ⟨hd, rfl⟩
  | note d' issued n _ ih => exact ih
  | handshake d' issued _ ih =>
    obtain ⟨hrenews, hconfig⟩ := ih
    obtain ⟨header?, done, hdone, hdeeds, hsession, hkept⟩ := d'.exists_greeting_sendHandshake
    rw [hdeeds, hsession, hkept]
    exact ⟨hrenews.greeting hdone, hconfig⟩
  | command d' issued method params options _ ih =>
    obtain ⟨hrenews, hconfig⟩ := ih
    obtain ⟨done, hdone, hdeeds, hkept⟩ := d'.exists_course_sendWith method params options
    rw [hconfig] at hdone
    rw [hdeeds, hkept]
    exact ⟨hrenews.command hdone, hconfig⟩

/-- A call that says that there was no response ends with a failure of the transport, and leaves the
session in which it happened. -/
theorem exists_attempt_of_noResponse (d : Device σ) (method : String) (params : Json)
    (options : SendOptions) (made : Nat) (e : TransportError)
    (h : (d.sendWith method params options).1 = .error (.noResponse made e)) :
    (d.sendWith method params options).2.session.isReady = true ∧ ∃ request before,
      (d.sendWith method params options).2.deeds = .attempt request (.transport e) :: before := by
  obtain ⟨done, hcourse, hdeeds, -⟩ := d.exists_course_sendWith method params options
  have houtcome := hcourse.outcome
  obtain ⟨-, address, tried, hunreached⟩ | ⟨hready, request, v, before, hshape⟩ :=
    hcourse.last_cases
  · rw [h] at hunreached
    cases hunreached
  · refine ⟨hready, request, before ++ .command method params options.extra :: d.deeds, ?_⟩
    obtain ⟨-, -, w, hlast, hw⟩ := (houtcome.eq_error_iff (.noResponse made e) rfl nofun).mp h
    rw [hshape, verdicts_attempt, List.getLast?_concat, Option.some.injEq] at hlast
    have hv : v = .transport e := hlast.trans ((Verdict.exhausted?_eq_noResponse_iff _ _ e).mp hw).2
    rw [hdeeds, hshape, hv]
    rfl

/-- Where sessions are kept, a call that says that there was no response is not made up for: the next
call makes its first attempt without a handshake. -/
theorem exists_unrenewed (d : Device σ) (method method' : String) (params params' : Json)
    (options options' : SendOptions) (made : Nat) (e : TransportError)
    (hlazy : d.config.lazyDiscover = true)
    (h : (d.sendWith method params options).1 = .error (.noResponse made e)) :
    ∃ later between before request request' verdict,
      ((d.sendWith method params options).2.sendWith method' params' options').2.deeds =
        later ++ .attempt request' verdict ::
          (between ++ .attempt request (.transport e) :: before) ∧
      verdicts between = [] ∧ handshakes between = 0 := by
  obtain ⟨hready, request, before, hlast⟩ :=
    d.exists_attempt_of_noResponse method params options made e h
  obtain ⟨-, -, -, hconfig⟩ := d.exists_course_sendWith method params options
  generalize (d.sendWith method params options).2 = d' at hready hlast hconfig ⊢
  obtain ⟨done, hcourse, hdeeds, -⟩ := d'.exists_course_sendWith method' params' options'
  have hkept : (!d'.session.isReady || !d'.config.lazyDiscover || !d'.session.isReady) = false := by
    simp [hready, hconfig, hlazy]
  obtain ⟨later, request', verdict, first, hdone, hfirst⟩ := hcourse.exists_first hkept
  have hzero := (hcourse.greetsIf_first hdone hfirst).handshakes_eq_zero hkept
  refine ⟨later, first ++ [.command method' params' options'.extra], before, request, request',
    verdict, ?_, by simp [hfirst], by simp [hzero]⟩
  rw [hdeeds, hdone, hlast]
  simp

/-- In every run of a new client, a handshake is answered between a failure of the transport and the
next attempt exactly if the two belong to one call, the settings ask for a handshake before every
call, or any handshake was made between them. Where the settings keep sessions, none is made between
a call that says that there was no response and the call after it. -/
theorem renewal_after_failures (transport : Transport σ) (state : σ) (token : Token)
    (config : DeviceConfig) (calls : List Call) :
    (∀ later between before request request' e verdict,
      ((Device.new transport state token config).run calls).2.deeds =
        later ++ .attempt request' verdict ::
          (between ++ .attempt request (.transport e) :: before) →
      verdicts between = [] →
        ((∃ header, .handshake (.ok header) ∈ between) ↔
          commands between = [] ∨ config.lazyDiscover = false ∨ 0 < handshakes between)) ∧
      ∀ (d : Device σ) method params options method' params' options' made e,
        d.config.lazyDiscover = true →
        (d.sendWith method params options).1 = .error (.noResponse made e) →
          ∃ later between before request request' verdict,
            ((d.sendWith method params options).2.sendWith method' params' options').2.deeds =
              later ++ .attempt request' verdict ::
                (between ++ .attempt request (.transport e) :: before) ∧
            verdicts between = [] ∧ handshakes between = 0 := by
  refine ⟨?_, ?_⟩
  · obtain ⟨issued, -, honward⟩ :=
      exists_onward_run calls (Device.new transport state token config)
    have hnew : Renews config.lazyDiscover (Session.new token) [] :=
      ⟨fun later _ _ _ _ _ _ hall => by simp at hall, nofun⟩
    intro later between before request request' e verdict
    exact (honward.renews hnew).1.between later between before request request' e verdict
  · intro d method params options method' params' options' made e hlazy h
    exact d.exists_unrenewed method method' params params' options options' made e hlazy h

/-- A client that makes every request once and keeps its session, of a device that answers nothing
but handshakes. -/
def unanswered : Device Octets :=
  .new (.answering fun data =>
      if data = Frame.handshake then .ok Frame.handshake else .error .readTimeout)
    [] Token.zero (DeviceConfig.default.withRetryCount 0)

/-- Two calls without a response, and no handshake between their attempts. -/
theorem unrenewed_between_calls :
    ¬ ∀ later between before request request' e verdict,
      (unanswered.run
          [.send "get_prop" (.array []), .send "get_prop" (.array [])]).2.deeds =
        later ++ .attempt request' verdict ::
          (between ++ .attempt request (.transport e) :: before) →
      verdicts between = [] → ∃ header, .handshake (.ok header) ∈ between := by
  intro hclaim
  have hrun (d : Device Octets) :
      (d.run [.send "get_prop" (.array []), .send "get_prop" (.array [])]).2 =
        ((d.sendWith "get_prop" (.array []) .default).2.sendWith "get_prop" (.array [])
          .default).2 := rfl
  rw [hrun] at hclaim
  have hfirst : (unanswered.sendWith "get_prop" (.array []) .default).1 =
      .error (.noResponse 1 .readTimeout) := rfl
  obtain ⟨later, between, before, request, request', verdict, hdeeds, hnone, hzero⟩ :=
    unanswered.exists_unrenewed "get_prop" "get_prop" (.array []) (.array []) .default .default 1
      .readTimeout rfl hfirst
  have hanswered : Answered between :=
    hclaim later between before request request' .readTimeout verdict hdeeds hnone
  have hpos := hanswered.handshakes_pos
  omega

end Device

end Appliance
