import Appliance.Proofs.Course
import Appliance.Proofs.ReplyJudgement

/-!
# The budget of a call

A call makes its request once and once more for each retry, whatever the mixture of failures is
that its attempts end with, and no attempt takes more handshakes than the settings allow. An
attempt that ends in success or in an error that no retry cures decides the result, and nothing else
gives that result; the errors that say that the retries are used up are given exactly when they are.
The only other end of a call is that a handshake it needs is not answered, however often it is tried.

All but that end follows from the ends of the attempts alone, so that it is stated of their list first.
-/

namespace Appliance

/-! ## The ends of the attempts -/

namespace Verdict

/-- A failure of the transport, or a refusal of the device that may pass. -/
def Retryable : Verdict → Prop
  | .transport _ => True
  | .recoverable report => isRecoverableCode report.code = true
  | .success _ | .fatal _ => False

/-- A refusal that counts as passing has a code of those that do, and an error that ends a call is one
that no later call would cure. -/
def Lawful : Verdict → Prop
  | .recoverable report => isRecoverableCode report.code = true
  | .fatal e => e.isRecoverable = false
  | .success _ | .transport _ => True

variable {v : Verdict}

/-- What can be made again does not end calls. -/
theorem final?_eq_none_of_retryable (h : v.Retryable) : v.final? = none := by
  cases v with
  | success value => exact h.elim
  | fatal e => exact h.elim
  | recoverable report => rfl
  | transport e => rfl

/-- What is made again can be made again. -/
theorem retryable_of_again? {s : Session} {next : Bool × Session} (hv : v.Lawful)
    (h : v.again? s = some next) : v.Retryable := by
  cases v with
  | success value => cases h
  | fatal e => cases h
  | recoverable report => exact hv
  | transport e => trivial

/-- What ends a call for want of retries could be made again. -/
theorem retryable_of_exhausted? {made : Nat} {e : DeviceError} (hv : v.Lawful)
    (h : v.exhausted? made = some e) : v.Retryable := by
  cases v with
  | success value => cases h
  | fatal e => cases h
  | recoverable report => exact hv
  | transport e => trivial

/-- What ends a call is a value, or an error after which a later call would not succeed either. -/
theorem isRecoverable_of_final? {result : Except DeviceError Json} (hv : v.Lawful)
    (h : v.final? = some result) (e : DeviceError) (he : result = .error e) :
    e.isRecoverable = false := by
  subst he
  cases v with
  | fatal e' =>
    cases h
    exact hv
  | success _ | recoverable _ | transport _ => cases h

/-- What ends a call for want of retries is an error after which a later call might succeed. -/
theorem isRecoverable_of_exhausted? {made : Nat} {e : DeviceError} (hv : v.Retryable)
    (h : v.exhausted? made = some e) : e.isRecoverable = true := by
  cases v with
  | success _ | fatal _ => cases h
  | recoverable report =>
    cases h
    exact hv
  | transport e' =>
    cases h
    rfl

/-- A value ends a call exactly if the attempt succeeds with it. -/
theorem final?_eq_ok_iff (value : Json) : v.final? = some (.ok value) ↔ v = .success value := by
  cases v <;> simp [final?]

/-- An error ends a call exactly if the attempt fails with it for good. -/
theorem final?_eq_error_iff (e : DeviceError) : v.final? = some (.error e) ↔ v = .fatal e := by
  cases v <;> simp [final?]

/-- Only a failure of the transport is reported as no response. -/
theorem exhausted?_eq_noResponse_iff (made made' : Nat) (e : TransportError) :
    v.exhausted? made = some (.noResponse made' e) ↔ made = made' ∧ v = .transport e := by
  cases v <;> simp [exhausted?]

/-- Only a refusal that may pass is reported as one for want of retries. -/
theorem exhausted?_eq_device_iff (made : Nat) (code : Int64) (message : String) :
    v.exhausted? made = some (.device code message) ↔ v = .recoverable ⟨code, message⟩ := by
  cases v with
  | success _ | fatal _ | transport _ => simp [exhausted?]
  | recoverable report =>
    cases report
    simp [exhausted?]

/-- For want of retries no call says that the device cannot be reached. -/
theorem exhausted?_ne_unreachable (made : Nat) (address : String) (tried : Nat) :
    v.exhausted? made ≠ some (.unreachable address tried) := by
  cases v <;> simp [exhausted?]

/-- For want of retries no call gives a failure of the transport as it is. -/
theorem exhausted?_ne_transport (made : Nat) (e : TransportError) :
    v.exhausted? made ≠ some (.transport e) := by
  cases v <;> simp [exhausted?]

end Verdict

/-- The end of an attempt by a response is lawful. -/
theorem Verdict.lawful_ofReply (reply : Reply) : (Verdict.ofReply reply).Lawful := by
  cases reply with
  | result value => trivial
  | error report =>
    unfold ofReply
    dsimp only
    split
    · rename_i hcode
      exact hcode
    · rename_i hcode
      exact Bool.eq_false_iff.mpr hcode

/-- The end of an attempt by a reply is lawful. -/
theorem Judged.lawful {s after : Session} {address method : String} {reply : Octets} {v : Verdict}
    (h : Judged s address method reply v after) : v.Lawful := by
  cases h with
  | forged | malformed | greeting | unfit => rfl
  | usable header body answer => exact Verdict.lawful_ofReply answer

/-- The end of an attempt is lawful. -/
theorem Attempted.lawful {s after : Session} {timeout : Millis} {request : Request}
    {verdict : Verdict} {done : List Entry}
    (h : Attempted s timeout request verdict after done) : verdict.Lawful := by
  cases h with
  | unready => rfl
  | unframed => rfl
  | unanswered => trivial
  | answered deviceId frame reply _ address =>
    exact (s.judged address request.method reply).lawful

/-- How the ends of the attempts of a call, in order, decide its result, with some attempts made
before and some retries left. -/
inductive Outcome : Nat → Nat → List Verdict → Except DeviceError Json → Prop
  /-- There is no attempt for want of a handshake. -/
  | unreached (made retries : Nat) (address : String) (attempts : Nat) :
      Outcome made retries [] (.error (.unreachable address attempts))
  /-- An attempt ends the call. -/
  | ended (made retries : Nat) (v : Verdict) (result : Except DeviceError Json) (hv : v.Lawful)
      (hresult : v.final? = some result) : Outcome made retries [v] result
  /-- No retry is left. -/
  | spent (made : Nat) (v : Verdict) (e : DeviceError) (hv : v.Retryable)
      (hresult : v.exhausted? (made + 1) = some e) : Outcome made 0 [v] (.error e)
  /-- A retry is used. -/
  | again (made retries : Nat) (v : Verdict) (vs : List Verdict)
      (result : Except DeviceError Json) (hv : v.Retryable)
      (hlater : Outcome (made + 1) retries vs result) :
      Outcome made (retries + 1) (v :: vs) result

namespace Outcome

variable {made retries : Nat} {vs : List Verdict} {result : Except DeviceError Json}

/-- There is one attempt more than retries at most. -/
theorem length_le (h : Outcome made retries vs result) : vs.length ≤ retries + 1 := by
  induction h with
  | unreached made retries address attempts => exact Nat.zero_le _
  | ended made retries v result hv hresult => exact Nat.succ_le_succ (Nat.zero_le _)
  | spent made v e hv hresult => exact Nat.le_refl 1
  | again made retries v vs result hv hlater ih => exact Nat.succ_le_succ ih

/-- An attempt that ends calls is the last one, decides the result, and comes after attempts that
can all be made again. -/
theorem of_final (h : Outcome made retries vs result) (earlier later : List Verdict) (v : Verdict)
    (out : Except DeviceError Json) (hvs : vs = earlier ++ v :: later) (hv : v.final? = some out) :
    (∀ w ∈ earlier, w.Retryable) ∧ later = [] ∧ result = out := by
  induction h generalizing earlier with
  | unreached made retries address attempts => simp at hvs
  | ended made retries w result hw hresult =>
    cases earlier with
    | nil =>
      cases hvs
      rw [hv] at hresult
      exact ⟨fun w hw => absurd hw List.not_mem_nil, rfl, (Option.some.inj hresult).symm⟩
    | cons x xs => simp at hvs
  | spent made w e hw hresult =>
    cases earlier with
    | nil =>
      cases hvs
      rw [Verdict.final?_eq_none_of_retryable hw] at hv
      cases hv
    | cons x xs => simp at hvs
  | again made retries w ws result hw hlater ih =>
    cases earlier with
    | nil =>
      cases hvs
      rw [Verdict.final?_eq_none_of_retryable hw] at hv
      cases hv
    | cons x xs =>
      rw [List.cons_append, List.cons.injEq] at hvs
      obtain ⟨hxs, hrest⟩ := ih xs hvs.2
      refine ⟨?_, hrest⟩
      intro y hy
      rcases List.mem_cons.mp hy with rfl | hy
      · rw [← hvs.1]
        exact hw
      · exact hxs y hy

/-- The error of an attempt that is the last of the budget is given exactly if the budget is used up
by attempts that can all be made again. -/
theorem eq_error_iff (h : Outcome made retries vs result) (e : DeviceError)
    (he : e.isRecoverable = true)
    (hreached : ∀ address attempts, e ≠ .unreachable address attempts) :
    result = .error e ↔
      vs.length = retries + 1 ∧ (∀ v ∈ vs, v.Retryable) ∧
        ∃ v, vs.getLast? = some v ∧ v.exhausted? (made + retries + 1) = some e := by
  induction h with
  | unreached made retries address attempts =>
    constructor
    · intro heq
      exact absurd (Except.error.inj heq).symm (hreached address attempts)
    · rintro ⟨hlength, -⟩
      cases hlength
  | ended made retries v result hv hresult =>
    constructor
    · intro heq
      rw [Verdict.isRecoverable_of_final? hv hresult e heq] at he
      cases he
    · rintro ⟨-, hall, -⟩
      rw [Verdict.final?_eq_none_of_retryable (hall v List.mem_cons_self)] at hresult
      cases hresult
  | spent made v e' hv hresult =>
    constructor
    · intro heq
      cases heq
      refine ⟨rfl, ?_, v, rfl, hresult⟩
      intro w hw
      rw [List.mem_singleton.mp hw]
      exact hv
    · rintro ⟨-, -, w, hlast, hw⟩
      have hsame : v = w := Option.some.inj hlast
      rw [← hsame, Nat.add_zero, hresult] at hw
      rw [Option.some.inj hw]
  | again made retries v vs result hv hlater ih =>
    rw [ih]
    have hmade : made + 1 + retries + 1 = made + (retries + 1) + 1 := by omega
    rw [hmade]
    constructor
    · rintro ⟨hlength, hall, w, hlast, hw⟩
      refine ⟨congrArg (· + 1) hlength, ?_, w, ?_, hw⟩
      · intro x hx
        rcases List.mem_cons.mp hx with rfl | hx
        · exact hv
        · exact hall x hx
      · rw [List.getLast?_cons, hlast]
        rfl
    · rintro ⟨hlength, hall, w, hlast, hw⟩
      have hlength' : vs.length = retries + 1 := Nat.succ_inj.mp hlength
      refine ⟨hlength', fun x hx => hall x (List.mem_cons_of_mem v hx), w, ?_, hw⟩
      obtain ⟨x, hx⟩ : ∃ x, vs.getLast? = some x := by
        cases vs with
        | nil => cases hlength'
        | cons y ys => exact ⟨_, List.getLast?_eq_some_getLast (List.cons_ne_nil y ys)⟩
      rw [List.getLast?_cons, hx] at hlast
      rw [hx]
      exact hlast

/-- A value, or an error that no retry cures, is the result exactly if the last attempt ends so. -/
theorem eq_iff_of_final (h : Outcome made retries vs result) (out : Except DeviceError Json)
    (hout : ∀ e, out = .error e → e.isRecoverable = false) :
    result = out ↔ ∃ v, vs.getLast? = some v ∧ v.final? = some out := by
  induction h with
  | unreached made retries address attempts =>
    constructor
    · intro heq
      cases hout _ heq.symm
    · rintro ⟨v, hlast, -⟩
      cases hlast
  | ended made retries v result hv hresult =>
    constructor
    · rintro rfl
      exact ⟨v, rfl, hresult⟩
    · rintro ⟨w, hlast, hw⟩
      have hsame : v = w := Option.some.inj hlast
      rw [← hsame, hresult] at hw
      exact Option.some.inj hw
  | spent made v e hv hresult =>
    constructor
    · intro heq
      have hnot := hout e heq.symm
      rw [Verdict.isRecoverable_of_exhausted? hv hresult] at hnot
      cases hnot
    · rintro ⟨w, hlast, hw⟩
      have hsame : v = w := Option.some.inj hlast
      rw [← hsame, Verdict.final?_eq_none_of_retryable hv] at hw
      cases hw
  | again made retries v vs result hv hlater ih =>
    rw [ih, List.getLast?_cons]
    constructor
    · rintro ⟨w, hlast, hw⟩
      refine ⟨w, ?_, hw⟩
      rw [hlast]
      rfl
    · rintro ⟨w, hlast, hw⟩
      refine ⟨w, ?_, hw⟩
      cases hvs : vs.getLast? with
      | none =>
        -- An attempt that is made again ends no call, so it is not the last one.
        rw [hvs] at hlast
        have hsame : v = w := Option.some.inj hlast
        rw [← hsame, Verdict.final?_eq_none_of_retryable hv] at hw
        cases hw
      | some x =>
        rw [hvs] at hlast
        exact hlast

/-- A call that cannot reach the device has retries left, and its attempts can all be made again. -/
theorem of_unreachable (h : Outcome made retries vs result) (address : String) (tried : Nat)
    (hresult : result = .error (.unreachable address tried)) :
    vs.length ≤ retries ∧ ∀ v ∈ vs, v.Retryable := by
  induction h with
  | unreached made retries address attempts => exact ⟨Nat.zero_le _, List.forall_mem_nil _⟩
  | ended made retries v result hv hfinal =>
    cases Verdict.isRecoverable_of_final? hv hfinal _ hresult
  | spent made v e hv hexhausted =>
    cases hresult
    exact absurd hexhausted (Verdict.exhausted?_ne_unreachable _ _ _)
  | again made retries v vs result hv hlater ih =>
    obtain ⟨hlength, hall⟩ := ih hresult
    exact ⟨Nat.succ_le_succ hlength, List.forall_mem_cons.mpr ⟨hv, hall⟩⟩

end Outcome

/-! ## The deeds of a call -/

/-- The end of an attempt, if an entry says it. -/
def Entry.verdict? : Entry → Option Verdict
  | .attempt _ verdict => some verdict
  | .wire _ | .handshake _ | .command _ _ _ | .note _ => none

/-- The ends of the attempts among some deeds, the earliest first. -/
def verdicts (done : List Entry) : List Verdict := (done.filterMap Entry.verdict?).reverse

/-- The number of handshakes among some deeds. -/
def handshakes (done : List Entry) : Nat := done.countP Entry.isHandshake

/-- The entry is the start of an exchange. -/
def Entry.isConnect : Entry → Bool
  | .wire (.connect _) => true
  | .wire (.send _ _) | .wire (.receive _ _) | .wire (.disconnect _) | .handshake _
  | .command _ _ _ | .attempt _ _ | .note _ => false

/-- The number of exchanges among some deeds, answered or not. -/
def exchanges (done : List Entry) : Nat := done.countP Entry.isConnect

/-- No deeds, no attempts. -/
@[simp] theorem verdicts_nil : verdicts [] = [] := rfl

/-- No deeds, no handshakes. -/
@[simp] theorem handshakes_nil : handshakes [] = 0 := rfl

/-- Deeds follow one another, the later ones in front. -/
@[simp] theorem verdicts_append (later before : List Entry) :
    verdicts (later ++ before) = verdicts before ++ verdicts later := by
  rw [verdicts, List.filterMap_append, List.reverse_append]
  rfl

/-- An attempt ends after what was done before. -/
@[simp] theorem verdicts_attempt (request : Request) (v : Verdict) (before : List Entry) :
    verdicts (.attempt request v :: before) = verdicts before ++ [v] := by
  have hcons : (Entry.attempt request v :: before).filterMap Entry.verdict? =
      v :: before.filterMap Entry.verdict? := rfl
  rw [verdicts, hcons, List.reverse_cons]
  rfl

/-- Handshakes among deeds that follow one another. -/
@[simp] theorem handshakes_append (later before : List Entry) :
    handshakes (later ++ before) = handshakes later + handshakes before :=
  List.countP_append

/-- Exchanges among deeds that follow one another. -/
@[simp] theorem exchanges_append (later before : List Entry) :
    exchanges (later ++ before) = exchanges later + exchanges before :=
  List.countP_append

/-- The end of a handshake starts no exchange. -/
@[simp] theorem exchanges_handshake (result : Except DeviceError Header) (before : List Entry) :
    exchanges (.handshake result :: before) = exchanges before :=
  List.countP_cons_of_neg (by simp [Entry.isConnect])

/-- The end of an attempt starts no exchange. -/
@[simp] theorem exchanges_attempt (request : Request) (v : Verdict) (before : List Entry) :
    exchanges (.attempt request v :: before) = exchanges before :=
  List.countP_cons_of_neg (by simp [Entry.isConnect])

/-- The end of an attempt is no handshake. -/
@[simp] theorem handshakes_attempt (request : Request) (v : Verdict) (before : List Entry) :
    handshakes (.attempt request v :: before) = handshakes before :=
  List.countP_cons_of_neg (by simp [Entry.isHandshake])

/-- Operations of a transport and ends of handshakes are no ends of attempts. -/
theorem verdicts_eq_nil {done : List Entry}
    (h : ∀ e ∈ done, e.isWire = true ∨ e.isHandshake = true) : verdicts done = [] := by
  rw [verdicts, List.reverse_eq_nil_iff, List.filterMap_eq_nil_iff]
  intro e he
  cases e with
  | attempt request verdict => exact absurd (h _ he) (by simp [Entry.isWire, Entry.isHandshake])
  | wire _ | handshake _ | command _ _ _ | note _ => rfl

/-- Operations of a transport are no handshakes. -/
theorem handshakes_eq_zero {done : List Entry} (h : ∀ e ∈ done, e.isWire = true) :
    handshakes done = 0 := by
  rw [handshakes, List.countP_eq_zero]
  intro e he
  cases e with
  | handshake result => exact absurd (h _ he) (by simp [Entry.isWire])
  | wire _ | command _ _ _ | attempt _ _ | note _ => simp [Entry.isHandshake]

/-- An exchange and the end of a handshake are one handshake. -/
theorem Exchanged.handshakes_eq {data : Octets} {timeout : Millis}
    {reply : Except TransportError Octets} {done : List Entry}
    (h : Exchanged data timeout reply done) (result : Except DeviceError Header) :
    handshakes (.handshake result :: done) = 1 := by
  rw [handshakes, List.countP_cons_of_pos rfl]
  exact congrArg (· + 1) (handshakes_eq_zero h.isWire)

/-- An exchange is one exchange, whatever comes of it. -/
theorem Exchanged.exchanges_eq {data : Octets} {timeout : Millis}
    {reply : Except TransportError Octets} {done : List Entry}
    (h : Exchanged data timeout reply done) : exchanges done = 1 := by
  cases h <;> rfl

/-- An attempt is one exchange at most. -/
theorem Attempted.exchanges_le {s after : Session} {timeout : Millis} {request : Request}
    {verdict : Verdict} {done : List Entry}
    (h : Attempted s timeout request verdict after done) : exchanges done ≤ 1 := by
  cases h with
  | unready | unframed => exact Nat.zero_le 1
  | unanswered _ _ _ _ _ _ hdone => exact Nat.le_of_eq hdone.exchanges_eq
  | answered _ _ _ _ _ _ _ hdone => exact Nat.le_of_eq hdone.exchanges_eq

namespace Greeting

variable {timeout : Millis} {attempts : Nat} {header? : Option Header} {done : List Entry}

/-- There are no more handshakes than are allowed. -/
theorem handshakes_le (h : Greeting timeout attempts header? done) :
    handshakes done ≤ attempts := by
  induction h with
  | unanswered => exact Nat.le_refl 0
  | answered left reply done header hdone hreply =>
    rw [hdone.handshakes_eq]
    omega
  | missed left reply done e header? later hdone hreply hlater ih =>
    rw [handshakes_append, hdone.handshakes_eq]
    omega

/-- Every exchange is that of a handshake. -/
theorem exchanges_eq (h : Greeting timeout attempts header? done) :
    exchanges done = handshakes done := by
  induction h with
  | unanswered => rfl
  | answered left reply done header hdone hreply =>
    rw [hdone.handshakes_eq, exchanges_handshake, hdone.exchanges_eq]
  | missed left reply done e header? later hdone hreply hlater ih =>
    rw [exchanges_append, handshakes_append, ih, hdone.handshakes_eq, exchanges_handshake,
      hdone.exchanges_eq]

/-- Where handshakes are allowed, one is made, and what is done last is no end of an attempt. -/
theorem ne_attempt_cons (h : Greeting timeout attempts header? done) (hpos : 0 < attempts)
    (before rest : List Entry) (request : Request) (v : Verdict) :
    done ++ before ≠ .attempt request v :: rest := by
  have hne : done ≠ [] := by
    cases h with
    | unanswered => exact absurd hpos (Nat.lt_irrefl 0)
    | answered | missed => simp
  obtain ⟨e, later, rfl⟩ := List.exists_cons_of_ne_nil hne
  intro heq
  rw [List.cons_append, List.cons.injEq] at heq
  have he := h.isWire_or_isHandshake e List.mem_cons_self
  simp [heq.1, Entry.isWire, Entry.isHandshake] at he

end Greeting

/-- Getting ready takes no more handshakes than are allowed. -/
theorem Prepared.handshakes_le {s ready : Session} {timeout : Millis} {attempts : Nat} {due : Bool}
    {done : List Entry} (h : Prepared s timeout attempts due ready done) :
    handshakes done ≤ attempts := by
  cases h with
  | kept => exact Nat.zero_le _
  | greeted _ _ _ hdone => exact hdone.handshakes_le

/-- Every exchange of getting ready is that of a handshake. -/
theorem Prepared.exchanges_eq {s ready : Session} {timeout : Millis} {attempts : Nat} {due : Bool}
    {done : List Entry} (h : Prepared s timeout attempts due ready done) :
    exchanges done = handshakes done := by
  cases h with
  | kept => rfl
  | greeted _ _ _ hdone => exact hdone.exchanges_eq

section

variable {timeout : Millis} {attempts : Nat} {method : String} {params : Json}
  {extra : List (String × Json)} {due : Bool} {s after : Session} {verdict : Verdict}
  {done : List Entry}

/-- The attempt of a turn ends lawfully. -/
theorem Turn.lawful (h : Turn timeout attempts method params extra due s verdict after done) :
    verdict.Lawful := by
  obtain ⟨ready, _, before, done, _, hbefore, hdone⟩ := h
  exact hdone.lawful

/-- A turn is one attempt. -/
theorem Turn.verdicts_eq
    (h : Turn timeout attempts method params extra due s verdict after done) :
    verdicts done = [verdict] := by
  obtain ⟨ready, _, before, done, _, hbefore, hdone⟩ := h
  rw [verdicts_attempt, verdicts_append, verdicts_eq_nil hbefore.isWire_or_isHandshake,
    verdicts_eq_nil fun e he => Or.inl (hdone.isWire e he)]
  rfl

/-- What a turn does last is to say how its attempt ended. -/
theorem Turn.exists_eq_attempt_cons
    (h : Turn timeout attempts method params extra due s verdict after done) :
    ∃ request before, done = .attempt request verdict :: before := by
  obtain ⟨ready, _, before, done, _, hbefore, hdone⟩ := h
  exact ⟨_, _, rfl⟩

/-- A turn takes no more handshakes than are allowed. -/
theorem Turn.handshakes_le
    (h : Turn timeout attempts method params extra due s verdict after done) :
    handshakes done ≤ attempts := by
  obtain ⟨ready, _, before, done, _, hbefore, hdone⟩ := h
  rw [handshakes_attempt, handshakes_append, handshakes_eq_zero hdone.isWire, Nat.zero_add]
  exact hbefore.handshakes_le

/-- A turn is one exchange more than its handshakes at most. -/
theorem Turn.exchanges_le
    (h : Turn timeout attempts method params extra due s verdict after done) :
    exchanges done ≤ handshakes done + 1 := by
  obtain ⟨ready, _, before, done, _, hbefore, hdone⟩ := h
  rw [exchanges_attempt, exchanges_append, hbefore.exchanges_eq, handshakes_attempt,
    handshakes_append, handshakes_eq_zero hdone.isWire]
  have hone := hdone.exchanges_le
  omega

end

namespace Course

variable {timeout : Millis} {attempts : Nat} {method : String} {params : Json}
  {extra : List (String × Json)} {retries made : Nat} {due : Bool} {s last : Session}
  {result : Except DeviceError Json} {done : List Entry}

/-- The ends of the attempts decide the result of a call. -/
theorem outcome
    (h : Course timeout attempts method params extra retries due made s result last done) :
    Outcome made retries (verdicts done) result := by
  induction h with
  | unreached retries due made s address done hdue hdone =>
    rw [verdicts_eq_nil hdone.isWire_or_isHandshake]
    exact .unreached made retries address attempts
  | ended retries due made s after done verdict result hturn hresult =>
    rw [hturn.verdicts_eq]
    exact .ended made retries verdict result hturn.lawful hresult
  | spent due made s after done verdict e hturn hresult =>
    rw [hturn.verdicts_eq]
    exact .spent made verdict e (Verdict.retryable_of_exhausted? hturn.lawful hresult) hresult
  | again retries due made s after next last done later verdict dueNext result hturn hnext hlater
      ih =>
    rw [verdicts_append, hturn.verdicts_eq]
    exact .again made retries verdict _ result
      (Verdict.retryable_of_again? hturn.lawful hnext) ih

/-- Each attempt of a call takes no more handshakes than are allowed. -/
theorem handshakes_le
    (h : Course timeout attempts method params extra retries due made s result last done) :
    handshakes done ≤ (retries + 1) * attempts := by
  have hone (retries : Nat) : attempts ≤ (retries + 1) * attempts :=
    Nat.le_mul_of_pos_left attempts (Nat.succ_pos retries)
  induction h with
  | unreached retries due made s address done hdue hdone =>
    exact Nat.le_trans hdone.handshakes_le (hone retries)
  | ended retries due made s after done verdict result hturn hresult =>
    exact Nat.le_trans hturn.handshakes_le (hone retries)
  | spent due made s after done verdict e hturn hresult =>
    exact Nat.le_trans hturn.handshakes_le (hone 0)
  | again retries due made s after next last done later verdict dueNext result hturn hnext hlater
      ih =>
    rw [handshakes_append, Nat.succ_mul]
    exact Nat.add_le_add ih hturn.handshakes_le

/-- Every exchange of a call is that of a handshake or of an attempt. -/
theorem exchanges_le
    (h : Course timeout attempts method params extra retries due made s result last done) :
    exchanges done ≤ handshakes done + (verdicts done).length := by
  have hone (verdict : Verdict) (done : List Entry) (due : Bool) (s after : Session)
      (hturn : Turn timeout attempts method params extra due s verdict after done) :
      exchanges done ≤ handshakes done + (verdicts done).length := by
    rw [hturn.verdicts_eq]
    exact hturn.exchanges_le
  induction h with
  | unreached retries due made s address done hdue hdone =>
    rw [hdone.exchanges_eq]
    exact Nat.le_add_right _ _
  | ended retries due made s after done verdict result hturn hresult =>
    exact hone verdict done due s after hturn
  | spent due made s after done verdict e hturn hresult =>
    exact hone verdict done due s after hturn
  | again retries due made s after next last done later verdict dueNext result hturn hnext hlater
      ih =>
    have hfirst := hone verdict done due s after hturn
    rw [exchanges_append, handshakes_append, verdicts_append, List.length_append]
    omega

/-- What a call does last are handshakes that are not answered, and then it says so, or an attempt, and
then it says something else. -/
theorem last_deeds
    (h : Course timeout attempts method params extra retries due made s result last done) :
    (∃ address greeting before, result = .error (.unreachable address attempts) ∧
      done = greeting ++ before ∧ Greeting timeout attempts none greeting) ∨
    ((∀ address tried, result ≠ .error (.unreachable address tried)) ∧
      ∃ request v before, done = .attempt request v :: before) := by
  induction h with
  | unreached retries due made s address done hdue hdone =>
    exact Or.inl ⟨address, done, [], rfl, (List.append_nil done).symm, hdone⟩
  | ended retries due made s after done verdict result hturn hresult =>
    obtain ⟨request, before, hlast⟩ := hturn.exists_eq_attempt_cons
    refine Or.inr ⟨?_, request, verdict, before, hlast⟩
    intro address tried heq
    cases Verdict.isRecoverable_of_final? hturn.lawful hresult _ heq
  | spent due made s after done verdict e hturn hresult =>
    obtain ⟨request, before, hlast⟩ := hturn.exists_eq_attempt_cons
    refine Or.inr ⟨?_, request, verdict, before, hlast⟩
    intro address tried heq
    cases heq
    exact Verdict.exhausted?_ne_unreachable _ _ _ hresult
  | again retries due made s after next last done later verdict dueNext result hturn hnext hlater
      ih =>
    obtain ⟨address, greeting, before, hresult, rfl, hgreeting⟩ | ⟨hresult, request, v, before, rfl⟩ :=
      ih
    · exact Or.inl
        ⟨address, greeting, before ++ done, hresult, List.append_assoc greeting before done, hgreeting⟩
    · exact Or.inr ⟨hresult, request, v, before ++ done, rfl⟩

/-- A call says that the device cannot be reached exactly if it ends with as many handshakes as are
allowed, none of them answered. -/
theorem unreachable_iff
    (h : Course timeout attempts method params extra retries due made s result last done)
    (hpos : 0 < attempts) (tried : Nat) :
    (∃ address, result = .error (.unreachable address tried)) ↔
      tried = attempts ∧
        ∃ greeting before, done = greeting ++ before ∧ Greeting timeout attempts none greeting := by
  obtain ⟨address, greeting, before, rfl, hdone, hgreeting⟩ | ⟨hresult, request, v, before, hdone⟩ :=
    h.last_deeds
  · constructor
    · rintro ⟨address', heq⟩
      cases heq
      exact ⟨rfl, greeting, before, hdone, hgreeting⟩
    · rintro ⟨rfl, -⟩
      exact ⟨address, rfl⟩
  · constructor
    · rintro ⟨address, heq⟩
      exact absurd heq (hresult address tried)
    · rintro ⟨-, greeting, before', hdone', hgreeting⟩
      exact absurd (hdone'.symm.trans hdone) (hgreeting.ne_attempt_cons hpos before' before request v)

end Course

namespace Device

variable {σ : Type}

/-- A call makes its request once more than its retries at most, and tries no more handshakes for
each attempt than the settings allow; no exchange is anything else. An attempt that ends in success
or in an error that no retry cures comes after attempts that can all be made again and decides the
result alone, and such a result comes from such an attempt only. The errors that say that there was no
response, or a refusal that may pass, are given exactly if all attempts that the budget allows were
made, all could be made again and the last one ended so. The device is said to be unreachable exactly
if the call ends with all the handshakes that the settings allow in a row and no answer, and retries
are left then, as all attempts before could be made again. A failure of the transport is never given as
it is. -/
theorem sendWith_within_budget (d : Device σ) (method : String) (params : Json)
    (options : SendOptions) :
    ∃ done,
      (d.sendWith method params options).2.deeds =
        done ++ .command method params options.extra :: d.deeds ∧
      (verdicts done).length ≤ retriesOf d.config options + 1 ∧
      handshakes done ≤ (retriesOf d.config options + 1) * greetingsOf d.config ∧
      exchanges done ≤ handshakes done + (verdicts done).length ∧
      (∀ earlier later v out, verdicts done = earlier ++ v :: later → v.final? = some out →
        (∀ w ∈ earlier, w.Retryable) ∧ later = [] ∧
          (d.sendWith method params options).1 = out) ∧
      (∀ value, (d.sendWith method params options).1 = .ok value ↔
        (verdicts done).getLast? = some (.success value)) ∧
      (∀ e, e.isRecoverable = false →
        ((d.sendWith method params options).1 = .error e ↔
          (verdicts done).getLast? = some (.fatal e))) ∧
      (∀ made e, (d.sendWith method params options).1 = .error (.noResponse made e) ↔
        made = retriesOf d.config options + 1 ∧
          (verdicts done).length = retriesOf d.config options + 1 ∧
          (∀ v ∈ verdicts done, v.Retryable) ∧
          (verdicts done).getLast? = some (.transport e)) ∧
      (∀ code message, isRecoverableCode code = true →
        ((d.sendWith method params options).1 = .error (.device code message) ↔
          (verdicts done).length = retriesOf d.config options + 1 ∧
            (∀ v ∈ verdicts done, v.Retryable) ∧
            (verdicts done).getLast? = some (.recoverable ⟨code, message⟩))) ∧
      (∀ tried, (∃ address, (d.sendWith method params options).1 =
          .error (.unreachable address tried)) ↔
        tried = greetingsOf d.config ∧ ∃ greeting before, done = greeting ++ before ∧
          Greeting d.config.timeout (greetingsOf d.config) none greeting) ∧
      (∀ address tried, (d.sendWith method params options).1 = .error (.unreachable address tried) →
        (verdicts done).length ≤ retriesOf d.config options ∧ ∀ v ∈ verdicts done, v.Retryable) ∧
      ∀ e, (d.sendWith method params options).1 ≠ .error (.transport e) := by
  obtain ⟨done, hcourse, hdeeds, -⟩ := d.exists_course_sendWith method params options
  have houtcome := hcourse.outcome
  refine ⟨done, hdeeds, houtcome.length_le, hcourse.handshakes_le, hcourse.exchanges_le,
    houtcome.of_final, ?_, ?_, ?_, ?_, hcourse.unreachable_iff (Nat.le_max_left 1 _),
    houtcome.of_unreachable, ?_⟩
  · intro value
    rw [houtcome.eq_iff_of_final (.ok value) fun e heq => nomatch heq]
    simp only [Verdict.final?_eq_ok_iff, exists_eq_right]
  · intro e he
    rw [houtcome.eq_iff_of_final (.error e) fun e' heq => Except.error.inj heq ▸ he]
    simp only [Verdict.final?_eq_error_iff, exists_eq_right]
  · intro made e
    rw [houtcome.eq_error_iff (.noResponse made e) rfl nofun, Nat.zero_add]
    constructor
    · rintro ⟨hlength, hall, v, hlast, hv⟩
      obtain ⟨rfl, rfl⟩ := (Verdict.exhausted?_eq_noResponse_iff _ _ _).mp hv
      exact ⟨rfl, hlength, hall, hlast⟩
    · rintro ⟨rfl, hlength, hall, hlast⟩
      exact ⟨hlength, hall, _, hlast, rfl⟩
  · intro code message hcode
    rw [houtcome.eq_error_iff (.device code message) hcode nofun]
    simp only [Verdict.exhausted?_eq_device_iff, exists_eq_right]
  · intro e heq
    obtain ⟨-, -, v, -, hv⟩ := (houtcome.eq_error_iff (.transport e) rfl nofun).mp heq
    exact Verdict.exhausted?_ne_transport _ e hv

end Device

end Appliance
