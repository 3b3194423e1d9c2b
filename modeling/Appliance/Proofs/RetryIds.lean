import Appliance.Proofs.RequestIds
import Appliance.Proofs.SocketScopes
import Mathlib.Data.List.Chain
import Mathlib.Logic.Function.Iterate

/-!
# The ids of requests that are made again

After a failure of the transport a request is made again, and the reply to the earlier request may still
come. So that it does not pass for the reply to the later one, the counter is moved ahead in between, and
the ids of such requests are 101 apart until they start again at one.

From one on, ninety-nine ids go by before the first of them comes again, and an id from which the counter
does not come by way of one never comes again. Of fewer than ninety-nine such requests in a row no two
have the same id, wherever the counter stood before the first.
-/

namespace Appliance

/-! ## Ids that follow one another -/

namespace SequenceId

/-- The id that follows an id after a failure of the transport. -/
def retried (id : Nat) : Nat := if id + 101 < 9999 then id + 101 else 1

/-- Moved ahead by the stride, a counter hands out the id that follows its current one. -/
theorem toNat_current_next_skip (s : SequenceId) :
    (s.skip retryIdStride).next.current.toNat = retried s.current.toNat := by
  have hskip := toNat_cappedAdd s.current retryIdStride
  have hstride : retryIdStride.toNat = 100 := rfl
  have hbound := s.current.toNat_lt
  rw [toNat_current_next, skip, hskip, hstride, retried]
  by_cases h : s.current.toNat + 101 < 9999
  · rw [if_pos h, if_pos (by omega)]
    omega
  · rw [if_neg h, if_neg (by omega)]

/-- Fewer than ninety-nine ids further on, the ids have not started again, or have started again at one
and not yet come by it a second time. -/
theorem iterate_retried_cases (id n : Nat) (hn : n < 99) :
    retried^[n] id = id + 101 * n ∨
      ∃ m ≤ n, 9999 ≤ id + 101 * m ∧ retried^[n] id = 1 + 101 * (n - m) := by
  induction n with
  | zero => exact Or.inl rfl
  | succ n ih =>
    rw [Function.iterate_succ_apply']
    obtain hahead | ⟨m, hm, hpast, hagain⟩ := ih (by omega)
    · rw [hahead, retried]
      by_cases hroom : id + 101 * n + 101 < 9999
      · rw [if_pos hroom]
        left
        omega
      · rw [if_neg hroom]
        refine Or.inr ⟨n + 1, Nat.le_refl _, by omega, ?_⟩
        simp
    · -- Since it started again the counter has made fewer than ninety-nine steps.
      rw [hagain, retried, if_pos (by omega)]
      exact Or.inr ⟨m, by omega, hpast, by omega⟩

/-- An id does not come again fewer than ninety-nine ids further on. -/
theorem iterate_retried_ne (id n : Nat) (hpos : 0 < n) (hn : n < 99) : retried^[n] id ≠ id := by
  intro hsame
  obtain hahead | ⟨m, hm, hpast, hagain⟩ := iterate_retried_cases id n hn
  · omega
  · omega

/-- Ninety-nine ids further on it may. -/
example : retried^[99] 1 = 1 := by decide +kernel

end SequenceId

/-! ## Attempts that follow one another -/

/-- The attempt that an entry says was made: its request and how it ended. -/
def Entry.attempt? : Entry → Option (Request × Verdict)
  | .attempt request verdict => some (request, verdict)
  | .wire _ | .handshake _ | .command _ _ _ | .note _ => none

/-- The attempts among some deeds, the earliest first. -/
def attempts (done : List Entry) : List (Request × Verdict) :=
  (done.filterMap Entry.attempt?).reverse

/-- Attempts among deeds that follow one another, the later ones in front. -/
@[simp] theorem attempts_append (later before : List Entry) :
    attempts (later ++ before) = attempts before ++ attempts later := by
  simp [attempts]

/-- The end of an attempt is one attempt. -/
@[simp] theorem attempts_attempt (request : Request) (v : Verdict) (before : List Entry) :
    attempts (.attempt request v :: before) = attempts before ++ [(request, v)] := by
  simp [attempts, Entry.attempt?]

/-- Deeds without verdicts hold no attempts. -/
theorem attempts_eq_nil {done : List Entry}
    (h : ∀ e ∈ done, e.isWire = true ∨ e.isHandshake = true) : attempts done = [] := by
  rw [attempts, List.reverse_eq_nil_iff, List.filterMap_eq_nil_iff]
  intro e he
  cases e with
  | attempt request verdict => simpa [Entry.isWire, Entry.isHandshake] using h _ he
  | wire _ | handshake _ | command _ _ _ | note _ => rfl

/-- If the transport fails in one attempt, the other one has the id that follows. -/
def FollowsByRetry (a b : Request × Verdict) : Prop :=
  ∀ e, a.2 = .transport e → b.1.id.toNat = SequenceId.retried a.1.id.toNat

section

variable {timeout : Millis} {tries : Nat} {method : String} {params : Json}
  {extra : List (String × Json)} {due : Bool} {s after : Session} {verdict : Verdict}
  {done : List Entry}

/-- An attempt in which the transport fails leaves the counter as it is. -/
theorem Attempted.sequence_of_transport {request : Request} {e : TransportError}
    (h : Attempted s timeout request verdict after done) (he : verdict = .transport e) :
    after.sequence = s.sequence := by
  cases h with
  | unready | unframed | unanswered => rfl
  | answered _ _ reply _ address =>
    exact absurd he ((s.judged address request.method reply).ne_transport e)

/-- Getting ready leaves the counter as it is. -/
theorem Prepared.sequence_eq {ready : Session} (h : Prepared s timeout tries due ready done) :
    ready.sequence = s.sequence := by
  cases h <;> rfl

/-- A turn is one attempt, with the id that the counter hands out next, where the counter stays if the
transport fails. -/
theorem Turn.exists_attempts_eq
    (h : Turn timeout tries method params extra due s verdict after done) :
    ∃ request : Request, attempts done = [(request, verdict)] ∧
      request.id = s.sequence.next.current ∧
      ∀ e, verdict = .transport e → after.sequence.current = request.id := by
  obtain ⟨ready, _, before, done, _, hbefore, hdone⟩ := h
  refine ⟨requestOf method params extra ready.nextId.currentId, ?_, ?_, ?_⟩
  · rw [attempts_attempt, attempts_append, attempts_eq_nil hbefore.isWire_or_isHandshake,
      attempts_eq_nil fun e he => Or.inl (hdone.isWire e he)]
    rfl
  · rw [← hbefore.sequence_eq]
    rfl
  · intro e he
    rw [hdone.sequence_of_transport he]
    rfl

/-- Between two attempts the counter is moved ahead by the stride if the transport failed. -/
theorem Verdict.sequence_of_again? {next : Session} {dueNext : Bool} {e : TransportError}
    (h : verdict.again? after = some (dueNext, next)) (he : verdict = .transport e) :
    next.sequence = after.sequence.skip retryIdStride := by
  subst he
  cases h
  rfl

/-- The first attempt of a call has the id that the counter hands out next, and each attempt after one
in which the transport fails has the id that follows. -/
theorem Course.attempts_follow {retries made : Nat} {result : Except DeviceError Json}
    {last : Session}
    (h : Course timeout tries method params extra retries due made s result last done) :
    (∀ a ∈ (attempts done).head?, a.1.id = s.sequence.next.current) ∧
      (attempts done).IsChain FollowsByRetry := by
  induction h with
  | unreached retries due made s address done hdue hdone =>
    simp [attempts_eq_nil hdone.isWire_or_isHandshake]
  | ended retries due made s after done v result hturn hresult =>
    obtain ⟨request, hattempts, hid, -⟩ := hturn.exists_attempts_eq
    simp [hattempts, hid]
  | spent due made s after done v e hturn hresult =>
    obtain ⟨request, hattempts, hid, -⟩ := hturn.exists_attempts_eq
    simp [hattempts, hid]
  | again retries due made s after next last done later v dueNext result hturn hnext hlater ih =>
    obtain ⟨request, hattempts, hid, hstays⟩ := hturn.exists_attempts_eq
    obtain ⟨hhead, hchain⟩ := ih
    rw [attempts_append, hattempts, List.singleton_append, List.isChain_cons]
    refine ⟨by simp [hid], ?_, hchain⟩
    intro b hb e he
    rw [hhead b hb, Verdict.sequence_of_again? hnext he, SequenceId.toNat_current_next_skip,
      hstays e he]

end

/-- Along attempts in which the transport fails the ids follow one another. -/
theorem id_eq_iterate_of_isChain {first last : Request × Verdict}
    {between later : List (Request × Verdict)}
    (h : (first :: (between ++ last :: later)).IsChain FollowsByRetry)
    (hfailed : ∀ a ∈ first :: between, ∃ e, a.2 = .transport e) :
    last.1.id.toNat = SequenceId.retried^[between.length + 1] first.1.id.toNat := by
  induction between generalizing first with
  | nil =>
    obtain ⟨e, he⟩ := hfailed first List.mem_cons_self
    exact (List.isChain_cons_cons.mp h).1 e he
  | cons next between ih =>
    obtain ⟨e, he⟩ := hfailed first List.mem_cons_self
    obtain ⟨hfollows, hrest⟩ := List.isChain_cons_cons.mp h
    rw [ih hrest fun a ha => hfailed a (List.mem_cons_of_mem _ ha), hfollows e he]
    rfl

/-! ## Replies that come late -/

/-- Octets are a reply that carries an id, under a token. -/
def CarriesId (reply : Octets) (token : Token) (id : UInt32) : Prop :=
  ∃ header body answer, Frame.decode reply token = .ok ⟨header, some body⟩ ∧
    Response.ofJson body = .ok ⟨some id, answer⟩

/-- A reply carries one id at most. -/
theorem CarriesId.unique {reply : Octets} {token : Token} {id id' : UInt32}
    (h : CarriesId reply token id) (h' : CarriesId reply token id') : id = id' := by
  obtain ⟨header, body, answer, hread, hbody⟩ := h
  obtain ⟨header', body', answer', hread', hbody'⟩ := h'
  rw [hread] at hread'
  cases hread'
  rw [hbody] at hbody'
  cases hbody'
  rfl

/-- That a reply carries another id than the one handed out last is noted. -/
theorem CarriesId.noted {reply : Octets} {s : Session} {id : UInt32}
    (h : CarriesId reply s.token id) (hne : id ≠ s.currentId) :
    .replyIdDiffers s.currentId id ∈ s.judgeNotes reply := by
  obtain ⟨header, body, answer, hread, hbody⟩ := h
  rw [Session.judgeNotes, hread]
  simp [Except.toOption, hbody, Session.observeReplyNotes, hne]

namespace Device

variable {σ : Type}

/-- The first attempt of a call has the id that the counter hands out next, and an attempt after one in
which the transport fails has an id that is 101 more, if that is below 9999, and one otherwise. Two
attempts fewer than ninety-nine positions apart, with nothing but failures of the transport from the one
to the other, therefore have different ids; no reply carries both of them, and if the reply to the
earlier one is taken for that to the later one, it is noted that its id differs. -/
theorem retried_ids_of_call (d : Device σ) (method : String) (params : Json)
    (options : SendOptions) :
    ∃ done,
      (d.sendWith method params options).2.deeds =
        done ++ .command method params options.extra :: d.deeds ∧
      (∀ first later, attempts done = first :: later →
        first.1.id.toNat = if d.session.currentId.toNat + 1 < 9999
          then d.session.currentId.toNat + 1 else 1) ∧
      (∀ earlier first second later e, attempts done = earlier ++ first :: second :: later →
        first.2 = .transport e →
          second.1.id.toNat = if first.1.id.toNat + 101 < 9999
            then first.1.id.toNat + 101 else 1) ∧
      ∀ earlier first between last later,
        attempts done = earlier ++ first :: (between ++ last :: later) →
        (∀ a ∈ first :: between, ∃ e, a.2 = .transport e) →
        between.length + 1 < 99 →
          first.1.id ≠ last.1.id ∧
          (∀ reply token,
            ¬ (CarriesId reply token first.1.id ∧ CarriesId reply token last.1.id)) ∧
          ∀ (s : Session) reply, s.currentId = last.1.id →
            CarriesId reply s.token first.1.id →
              .replyIdDiffers last.1.id first.1.id ∈ s.judgeNotes reply := by
  obtain ⟨done, hcourse, hdeeds, -⟩ := d.exists_course_sendWith method params options
  obtain ⟨hhead, hchain⟩ := hcourse.attempts_follow
  refine ⟨done, hdeeds, ?_, ?_, ?_⟩
  · intro first later hattempts
    rw [hhead first (by rw [hattempts]; rfl), SequenceId.toNat_current_next]
    rfl
  · intro earlier first second later e hattempts he
    rw [hattempts] at hchain
    exact (List.isChain_cons_cons.mp hchain.right_of_append).1 e he
  · intro earlier first between last later hattempts hfailed hlength
    rw [hattempts] at hchain
    have hiterate := id_eq_iterate_of_isChain hchain.right_of_append hfailed
    have hne : first.1.id ≠ last.1.id := by
      intro hsame
      rw [← hsame] at hiterate
      exact SequenceId.iterate_retried_ne _ _ (Nat.succ_pos _) hlength hiterate.symm
    refine ⟨hne, ?_, ?_⟩
    · rintro reply token ⟨hfirst, hlast⟩
      exact hne (hfirst.unique hlast)
    · intro s reply hcurrent hcarries
      rw [← hcurrent]
      exact hcarries.noted (by rw [hcurrent]; exact hne)

end Device

end Appliance
