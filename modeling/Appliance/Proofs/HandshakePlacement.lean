import Appliance.Proofs.ReplyJudgement
import Appliance.Proofs.RetryBudget
import Appliance.Proofs.Runs

/-!
# Where handshakes are made

A call makes handshakes in two places only: before its first attempt, if it has no session or the
settings ask for a new one, and before an attempt that follows a failure of the transport. Each time
the last handshake is the one that is answered. A refusal that may pass is no reason for a handshake,
whatever the settings ask for.

Every attempt is therefore made in a session with the device, and no attempt ends for want of one.
-/

namespace Appliance

/-! ## Deeds with handshakes -/

/-- The end of a handshake, if an entry says it. -/
def Entry.handshake? : Entry → Option (Except DeviceError Header)
  | .handshake result => some result
  | .wire _ | .command _ _ _ | .attempt _ _ | .note _ => none

/-- The end of the latest handshake among some deeds. -/
def latestHandshake (done : List Entry) : Option (Except DeviceError Header) :=
  done.findSome? Entry.handshake?

/-- The latest handshake is among the later deeds, if there is any. -/
@[simp] theorem latestHandshake_append (later before : List Entry) :
    latestHandshake (later ++ before) = (latestHandshake later).or (latestHandshake before) :=
  List.findSome?_append

/-- Operations of a transport are no handshakes. -/
theorem latestHandshake_eq_none {done : List Entry} (h : ∀ e ∈ done, e.isWire = true) :
    latestHandshake done = none := by
  rw [latestHandshake, List.findSome?_eq_none_iff]
  intro e he
  cases e with
  | handshake result => simpa [Entry.isWire] using h _ he
  | wire _ | command _ _ _ | attempt _ _ | note _ => rfl

/-- Where handshakes are answered, the latest one is. -/
theorem Greeting.latestHandshake_eq {timeout : Millis} {attempts : Nat} {header? : Option Header}
    {done : List Entry} (h : Greeting timeout attempts header? done) (header : Header)
    (hheader : header? = some header) : latestHandshake done = some (.ok header) := by
  induction h with
  | unanswered => cases hheader
  | answered left reply done header' hdone hreply =>
    cases hheader
    rfl
  | missed left reply done e header? later hdone hreply hlater ih =>
    rw [latestHandshake_append, ih hheader]
    rfl

/-- The latest handshake is one of the deeds. -/
theorem mem_of_latestHandshake {done : List Entry} {result : Except DeviceError Header}
    (h : latestHandshake done = some result) : .handshake result ∈ done := by
  obtain ⟨e, he, hresult⟩ := List.exists_of_findSome?_eq_some h
  cases e with
  | handshake result' =>
    cases hresult
    exact he
  | wire _ | command _ _ _ | attempt _ _ | note _ => cases hresult

/-- Where some handshake has ended, there are handshakes. -/
theorem handshakes_pos_of_latestHandshake {done : List Entry} {result : Except DeviceError Header}
    (h : latestHandshake done = some result) : 0 < handshakes done :=
  List.countP_pos_iff.mpr ⟨_, mem_of_latestHandshake h, rfl⟩

/-- Some deeds hold handshakes exactly if one was due, and then the latest one is answered. -/
structure GreetsIf (due : Bool) (done : List Entry) : Prop where
  pos_iff : 0 < handshakes done ↔ due = true
  answered : due = true → ∃ header, latestHandshake done = some (.ok header)

namespace GreetsIf

variable {due : Bool} {done : List Entry}

/-- Where no handshake was due there is none. -/
theorem handshakes_eq_zero (h : GreetsIf due done) (hdue : due = false) : handshakes done = 0 := by
  have hnone : ¬ 0 < handshakes done := fun hpos => by simp [h.pos_iff.mp hpos] at hdue
  omega

/-- An exchange that follows plays no part. -/
theorem wire (h : GreetsIf due done) (later : List Entry)
    (hlater : ∀ e ∈ later, e.isWire = true) : GreetsIf due (later ++ done) := by
  refine ⟨?_, ?_⟩
  · rw [handshakes_append, Appliance.handshakes_eq_zero hlater, Nat.zero_add]
    exact h.pos_iff
  · rw [latestHandshake_append, latestHandshake_eq_none hlater]
    exact h.answered

end GreetsIf

/-- To get ready a handshake is made exactly if one is due or there is no session. -/
theorem Prepared.greetsIf {s ready : Session} {timeout : Millis} {attempts : Nat} {due : Bool}
    {done : List Entry} (h : Prepared s timeout attempts due ready done) :
    GreetsIf (due || !s.isReady) done := by
  cases h with
  | kept hdue hready => exact ⟨by simp [handshakes, hdue, hready], by simp [hdue, hready]⟩
  | greeted header done hdue hdone =>
    have hlatest := hdone.latestHandshake_eq header rfl
    have hpos := handshakes_pos_of_latestHandshake hlatest
    exact ⟨by simp [hdue, hpos], fun _ => ⟨header, hlatest⟩⟩

/-! ## Sessions with a device -/

/-- An attempt neither makes nor drops a session with the device. -/
theorem Attempted.isReady_eq {s after : Session} {timeout : Millis} {request : Request}
    {verdict : Verdict} {done : List Entry}
    (h : Attempted s timeout request verdict after done) : after.isReady = s.isReady := by
  cases h with
  | unready | unframed | unanswered => rfl
  | answered _ _ reply _ address =>
    rw [Session.isReady, (s.judged address request.method reply).keeps.2.1]
    rfl

namespace Verdict

/-- Whether the transport has failed. -/
def isTransport : Verdict → Bool
  | .transport _ => true
  | .success _ | .recoverable _ | .fatal _ => false

/-- The verdict is a failure of the transport exactly if it has an error of the transport. -/
theorem isTransport_iff (v : Verdict) : v.isTransport = true ↔ ∃ e, v = .transport e := by
  cases v <;> simp [isTransport]

/-- Before an attempt is made again a handshake is due exactly if the transport has failed. -/
theorem due_of_again? {v : Verdict} {after next : Session} {due : Bool}
    (h : v.again? after = some (due, next)) (hready : after.isReady = true) :
    (due || !next.isReady) = v.isTransport := by
  cases v with
  | success _ | fatal _ => cases h
  | recoverable report =>
    cases h
    simp [hready, isTransport]
  | transport e =>
    cases h
    rfl

end Verdict

/-! ## Attempts in the course of a call -/

/-- Something done among deeds that follow one another is done among the later ones or among those
before. -/
theorem append_eq_append_cons_cases {α : Type} {xs ys later before : List α} {a : α}
    (h : xs ++ ys = later ++ a :: before) :
    (∃ middle, xs = later ++ a :: middle ∧ before = middle ++ ys) ∨
      ∃ middle, later = xs ++ middle ∧ ys = middle ++ a :: before := by
  obtain ⟨rest, hlater, hys⟩ | ⟨rest, hxs, hrest⟩ := List.append_eq_append_iff.mp h
  · exact Or.inr ⟨rest, hlater, hys⟩
  · cases rest with
    | nil => exact Or.inr ⟨[], by simpa using hxs.symm, hrest.symm⟩
    | cons b rest =>
      cases hrest
      exact Or.inl ⟨rest, hxs, rfl⟩

/-- There is no attempt among deeds without verdicts. -/
theorem append_attempt_ne {done later before : List Entry} {request : Request} {v : Verdict}
    (hdone : verdicts done = []) : done ≠ later ++ .attempt request v :: before := by
  intro h
  simp [h] at hdone

/-- An attempt among the deeds up to another attempt is that one, or it is done later. -/
theorem attempt_cases {later later' before before' : List Entry} {request request' : Request}
    {v v' : Verdict} (hbefore : verdicts before = [])
    (h : later ++ .attempt request v :: before = later' ++ .attempt request' v' :: before') :
    (later' = later ∧ request' = request ∧ v' = v ∧ before' = before) ∨
      ∃ middle, later = later' ++ .attempt request' v' :: middle ∧
        before' = middle ++ .attempt request v :: before := by
  obtain hmiddle | ⟨middle, hlater', hrest⟩ := append_eq_append_cons_cases h
  · exact Or.inr hmiddle
  · cases middle with
    | nil =>
      cases hrest
      exact Or.inl ⟨by simpa using hlater', rfl, rfl, rfl⟩
    | cons e middle =>
      cases hrest
      exact absurd rfl (append_attempt_ne hbefore)

section

variable {timeout : Millis} {attempts : Nat} {method : String} {params : Json}
  {extra : List (String × Json)} {due : Bool} {s after : Session} {verdict : Verdict}
  {done : List Entry}

/-- A turn is getting ready, with a handshake if one is due, and then its attempt, which leaves a
session with the device. -/
theorem Turn.exists_greetsIf
    (h : Turn timeout attempts method params extra due s verdict after done) :
    after.isReady = true ∧ ∃ request before, done = .attempt request verdict :: before ∧
      verdicts before = [] ∧ GreetsIf (due || !s.isReady) before := by
  obtain ⟨ready, _, before, done, _, hbefore, hdone⟩ := h
  refine ⟨hdone.isReady_eq.trans hbefore.isReady, _, _, rfl, ?_,
    hbefore.greetsIf.wire done hdone.isWire⟩
  rw [verdicts_append, verdicts_eq_nil hbefore.isWire_or_isHandshake,
    verdicts_eq_nil fun e he => Or.inl (hdone.isWire e he)]
  rfl

variable {retries made : Nat} {result : Except DeviceError Json} {last : Session}

/-- A call reaches no device, where a handshake is due, or starts with a turn. -/
theorem Course.first_cases
    (h : Course timeout attempts method params extra retries due made s result last done) :
    ((due || !s.isReady) = true ∧ Greeting timeout attempts none done) ∨
      ∃ verdict after turn rest,
        Turn timeout attempts method params extra due s verdict after turn ∧
          done = rest ++ turn := by
  cases h with
  | unreached retries due made s address done hdue hgreeting => exact Or.inl ⟨hdue, hgreeting⟩
  | ended retries due made s after done verdict result hturn hresult =>
    exact Or.inr ⟨verdict, last, done, [], hturn, rfl⟩
  | spent due made s after done verdict e hturn hresult =>
    exact Or.inr ⟨verdict, last, done, [], hturn, rfl⟩
  | again retries due made s after next last turn rest verdict dueNext result hturn hnext hlater =>
    exact Or.inr ⟨verdict, after, turn, rest, hturn, rfl⟩

/-- Before the first attempt of a call a handshake is made exactly if one is due or there is no
session. -/
theorem Course.greetsIf_first
    (h : Course timeout attempts method params extra retries due made s result last done)
    {later before : List Entry} {request : Request} {v : Verdict}
    (hdone : done = later ++ .attempt request v :: before) (hbefore : verdicts before = []) :
    GreetsIf (due || !s.isReady) before := by
  obtain ⟨-, hgreeting⟩ | ⟨verdict, after, turn, rest, hturn, hall⟩ := h.first_cases
  · exact absurd hdone (append_attempt_ne (verdicts_eq_nil hgreeting.isWire_or_isHandshake))
  · obtain ⟨-, first, earlier, hturn, hnone, hgreets⟩ := hturn.exists_greetsIf
    rw [hdone, hturn] at hall
    obtain ⟨-, -, -, hsame⟩ | ⟨middle, -, hsame⟩ := attempt_cases hnone hall.symm
    · rw [hsame]
      exact hgreets
    · simp [hsame] at hbefore

/-- Between two attempts of a call that follow one another a handshake is made exactly if the
transport failed in the first of them. -/
theorem Course.greetsIf_between
    (h : Course timeout attempts method params extra retries due made s result last done)
    {later between before : List Entry} {request request' : Request} {v v' : Verdict}
    (hdone : done = later ++ .attempt request' v' :: (between ++ .attempt request v :: before))
    (hbetween : verdicts between = []) : GreetsIf v.isTransport between := by
  have htwo (due : Bool) (s after : Session) (verdict : Verdict) (turn later before : List Entry)
      (hturn : Turn timeout attempts method params extra due s verdict after turn) :
      turn ≠ later ++ .attempt request' v' :: (between ++ .attempt request v :: before) := by
    intro hall
    have hone := congrArg List.length hturn.verdicts_eq
    simp [hall] at hone
    omega
  induction h generalizing later before with
  | unreached retries due made s address done hdue hgreeting =>
    exact absurd hdone (append_attempt_ne (verdicts_eq_nil hgreeting.isWire_or_isHandshake))
  | ended retries due made s after done verdict result hturn hresult =>
    exact absurd hdone (htwo due s after verdict done later before hturn)
  | spent due made s after done verdict e hturn hresult =>
    exact absurd hdone (htwo due s after verdict done later before hturn)
  | again retries due made s after next last turn rest verdict dueNext result hturn hnext hlater
      ih =>
    obtain ⟨hready, first, earlier, hturn, hnone, -⟩ := hturn.exists_greetsIf
    rw [hturn] at hdone
    obtain ⟨-, -, -, hsame⟩ | ⟨middle, hrest, hsame⟩ := attempt_cases hnone hdone
    · exact absurd hsame.symm (append_attempt_ne hnone)
    · -- The later of the two attempts is not that of the first turn, the earlier one may be.
      obtain ⟨hmiddle, -, hv, -⟩ | ⟨middle', hmiddle, -⟩ := attempt_cases hnone hsame.symm
      · rw [hv, ← Verdict.due_of_again? hnext hready, hmiddle]
        rw [hmiddle] at hbetween
        exact hlater.greetsIf_first hrest hbetween
      · rw [hmiddle] at hrest
        exact ih hrest

end

/-! ## Attempts without a session -/

/-- A request is only refused by its frame for its size. -/
theorem Frame.encode_request_error (request : Request) (deviceId timestamp : UInt32)
    (token : Token) (e : ProtocolError)
    (h : encode request deviceId timestamp token = .error e) :
    ∃ size max, e = .payloadTooLarge size max := by
  have hjson : Payload.json request = .ok request.toJson := rfl
  by_cases hfits : request.toJson.octets.length ≤ maxText
  · rw [encode_of_length_le request _ deviceId timestamp token hjson hfits] at h
    cases h
  · rw [encode_of_lt_length request _ deviceId timestamp token hjson (Nat.not_le.mp hfits)] at h
    cases h
    exact ⟨_, _, rfl⟩

/-- A response ends its call only by the device's own refusal. -/
theorem Verdict.eq_device_of_ofReply (answer : Reply) (e : DeviceError)
    (h : Verdict.ofReply answer = .fatal e) : ∃ code message, e = .device code message := by
  cases answer with
  | result value => cases h
  | error report =>
    unfold Verdict.ofReply at h
    dsimp only at h
    split at h
    · cases h
    · cases h
      exact ⟨_, _, rfl⟩

namespace Attempted

variable {s after : Session} {timeout : Millis} {request : Request} {verdict : Verdict}
  {done : List Entry}

/-- In a session with a device, an attempt ends in an error of the protocol only for a malformed
reply or for a request that is too large. -/
theorem protocol_cases (h : Attempted s timeout request verdict after done)
    (hready : s.isReady = true) (e : ProtocolError) (he : verdict = .fatal (.protocol e)) :
    e.isMalformed = true ∨ ∃ size max, e = .payloadTooLarge size max := by
  cases h with
  | unready hid => simp [Session.isReady, hid] at hready
  | unframed deviceId e' hid hframe =>
    cases he
    exact Or.inr (Frame.encode_request_error request deviceId _ s.token e hframe)
  | unanswered => cases he
  | answered deviceId frame reply done address hid hframe hdone =>
    have hjudged := s.judged address request.method reply
    rw [he] at hjudged
    generalize (s.judge address request.method reply).2 = after at hjudged
    generalize hv : Verdict.fatal (.protocol e) = v at hjudged
    cases hjudged with
    | forged | greeting => cases hv
    | malformed e' hread he' =>
      cases hv
      exact Or.inl he'
    | unfit header body error hread hbody =>
      cases hv
      exact Or.inl rfl
    | usable header body answer hread hbody =>
      obtain ⟨code, message, hdevice⟩ := Verdict.eq_device_of_ofReply answer _ hv.symm
      cases hdevice

/-- An attempt says that there is no session exactly if there is none. -/
theorem eq_sessionNotInitialized_iff (h : Attempted s timeout request verdict after done) :
    verdict = .fatal (.protocol .sessionNotInitialized) ↔ s.isReady = false := by
  constructor
  · intro hverdict
    rw [Bool.eq_false_iff]
    intro hready
    obtain hmalformed | ⟨size, max, hlarge⟩ := h.protocol_cases hready _ hverdict
    · cases hmalformed
    · cases hlarge
  · intro hready
    cases h with
    | unready hid => rfl
    | unframed _ _ hid | unanswered _ _ _ _ hid | answered _ _ _ _ _ hid =>
      simp [Session.isReady, hid] at hready

end Attempted

namespace Device

variable {σ : Type}

/-- A call makes a handshake before its first attempt exactly if there is no session or the settings
ask for one, and between two attempts exactly if the transport failed in the first of them. There the
latest handshake is answered, and after a refusal that may pass there is none. An attempt says that
there is no session exactly if there is none, and in no run does any attempt say so. -/
theorem handshakes_of_calls (d : Device σ) :
    (∀ method params options, ∃ done,
      (d.sendWith method params options).2.deeds =
        done ++ .command method params options.extra :: d.deeds ∧
      (∀ later before request verdict, done = later ++ .attempt request verdict :: before →
        verdicts before = [] →
          (0 < handshakes before ↔
            d.session.isReady = false ∨ d.config.lazyDiscover = false)) ∧
      ∀ later between before request request' verdict verdict',
        done = later ++ .attempt request' verdict' ::
          (between ++ .attempt request verdict :: before) →
        verdicts between = [] →
          (0 < handshakes between ↔ ∃ e, verdict = .transport e) ∧
          (0 < handshakes between → ∃ header, latestHandshake between = some (.ok header)) ∧
          (∀ report, verdict = .recoverable report → handshakes between = 0)) ∧
      (∀ request, (d.attempt request).1 = .fatal (.protocol .sessionNotInitialized) ↔
        d.session.isReady = false) ∧
      ∀ calls request verdict, .attempt request verdict ∈ (d.run calls).2.deeds →
        .attempt request verdict ∈ d.deeds ∨
          verdict ≠ .fatal (.protocol .sessionNotInitialized) := by
  refine ⟨?_, ?_, ?_⟩
  · intro method params options
    obtain ⟨done, hcourse, hdeeds, -⟩ := d.exists_course_sendWith method params options
    refine ⟨done, hdeeds, ?_, ?_⟩
    · intro later before request verdict hdone hbefore
      rw [(hcourse.greetsIf_first hdone hbefore).pos_iff]
      cases d.session.isReady <;> simp
    · intro later between before request request' verdict verdict' hdone hbetween
      have hgreets := hcourse.greetsIf_between hdone hbetween
      refine ⟨?_, ?_, ?_⟩
      · rw [hgreets.pos_iff, verdict.isTransport_iff]
      · intro hpos
        exact hgreets.answered (hgreets.pos_iff.mp hpos)
      · intro report hverdict
        exact hgreets.handshakes_eq_zero (by rw [hverdict]; rfl)
  · intro request
    obtain ⟨done, hattempted, -⟩ := d.exists_attempted request
    exact hattempted.eq_sessionNotInitialized_iff
  · have hready : HoldsOfAttempts fun _ verdict =>
        verdict ≠ .fatal (.protocol .sessionNotInitialized) := by
      intro s after timeout method params extra verdict done hready hdone hverdict
      have hnone : s.isReady = false := hdone.eq_sessionNotInitialized_iff.mp hverdict
      rw [hready] at hnone
      cases hnone
    intro calls request verdict hmem
    exact hready.of_run d calls hmem

end Device

end Appliance
