import Appliance.Proofs.Runs

/-!
# The ids of requests

The counter of request ids can stand anywhere: it is moved ahead after a failure, and it adopts any
id that a device gives. All the same, what it hands out next is from 1 to 9998, whatever was done to
it before, and no sum goes round on the way.

In every run the ids of the attempts are those that a counter hands out along some moves. Handshakes
move no counter, so that each move belongs to an attempt or to what follows it.
-/

namespace Appliance

namespace SequenceId

/-- A capped sum is the sum of the numbers, or the greatest number where that is less. -/
theorem toNat_cappedAdd (m n : UInt32) :
    (cappedAdd m n).toNat = min (m.toNat + n.toNat) 4294967295 := by
  by_cases h : m.toNat + n.toNat < 4294967296
  · rw [cappedAdd, if_pos h, UInt32.toNat_add, Nat.mod_eq_of_lt h]
    omega
  · rw [cappedAdd, if_neg h]
    have hmax : (0xffffffff : UInt32).toNat = 4294967295 := rfl
    omega

/-- The next id is one more than the last one, or one again. -/
theorem toNat_current_next (s : SequenceId) :
    s.next.current.toNat =
      if s.current.toNat + 1 < 9999 then s.current.toNat + 1 else 1 := by
  have hone : (1 : UInt32).toNat = 1 := rfl
  have hwrap : wrap.toNat = 9999 := rfl
  have hup := toNat_cappedAdd s.current 1
  have hle := UInt32.le_iff_toNat_le (a := wrap) (b := cappedAdd s.current 1)
  simp only [next]
  by_cases h : cappedAdd s.current 1 ≥ wrap
  · rw [if_pos h, if_neg (by have := hle.mp h; omega)]
    rfl
  · have hlt : ¬ wrap.toNat ≤ (cappedAdd s.current 1).toNat := fun hn => h (hle.mpr hn)
    rw [if_neg h, if_pos (by omega)]
    omega

/-- What is handed out next is in range, wherever the counter stands. -/
theorem current_next_bounds (s : SequenceId) :
    1 ≤ s.next.current.toNat ∧ s.next.current.toNat ≤ 9998 := by
  rw [toNat_current_next]
  split <;> omega

/-- What is done to a counter. -/
inductive Move where
  | next
  | skip (stride : UInt32)
  | observe (id : UInt32)

/-- The counter after a move. -/
def moved (s : SequenceId) : Move → SequenceId
  | .next => s.next
  | .skip stride => s.skip stride
  | .observe id => s.observe id

/-- The ids that a counter hands out along some moves, in order. -/
def handedOut (s : SequenceId) : List Move → List UInt32
  | [] => []
  | .next :: moves => s.next.current :: s.next.handedOut moves
  | .skip stride :: moves => (s.skip stride).handedOut moves
  | .observe id :: moves => (s.observe id).handedOut moves

/-- Along moves that follow one another the ids follow one another. -/
theorem handedOut_append (s : SequenceId) (moves later : List Move) :
    s.handedOut (moves ++ later) =
      s.handedOut moves ++ (moves.foldl moved s).handedOut later := by
  induction moves generalizing s with
  | nil => rfl
  | cons move moves ih => cases move <;> simp [handedOut, moved, ih]

/-- All ids that a counter hands out are in range. -/
theorem bounds_of_mem_handedOut (s : SequenceId) (moves : List Move) (id : UInt32)
    (h : id ∈ s.handedOut moves) : 1 ≤ id.toNat ∧ id.toNat ≤ 9998 := by
  induction moves generalizing s with
  | nil => simp [handedOut] at h
  | cons move moves ih =>
    cases move with
    | next =>
      rw [handedOut, List.mem_cons] at h
      obtain rfl | h := h
      · exact s.current_next_bounds
      · exact ih s.next h
    | skip stride => exact ih (s.skip stride) h
    | observe id => exact ih (s.observe id) h

end SequenceId

/-! ## The ids of attempts -/

/-- The id of the request that an entry says was attempted. -/
def Entry.attemptedId? : Entry → Option UInt32
  | .attempt request _ => some request.id
  | .wire _ | .handshake _ | .command _ _ _ | .note _ => none

/-- The ids of the requests attempted among some deeds, the earliest first. -/
def attemptedIds (done : List Entry) : List UInt32 :=
  (done.filterMap Entry.attemptedId?).reverse

/-- Ids among deeds that follow one another, the later ones in front. -/
@[simp] theorem attemptedIds_append (later before : List Entry) :
    attemptedIds (later ++ before) = attemptedIds before ++ attemptedIds later := by
  simp [attemptedIds]

/-- Deeds without attempts have no ids. -/
theorem attemptedIds_eq_nil {done : List Entry}
    (h : ∀ e ∈ done, e.isWire = true ∨ e.isHandshake = true) : attemptedIds done = [] := by
  rw [attemptedIds, List.reverse_eq_nil_iff, List.filterMap_eq_nil_iff]
  intro e he
  cases e with
  | attempt request verdict => simpa [Entry.isWire, Entry.isHandshake] using h _ he
  | wire _ | handshake _ | command _ _ _ | note _ => rfl

/-- From one session to another the counter is moved, and hands out the ids of the attempts. -/
def Counts (s s' : Session) (done : List Entry) : Prop :=
  ∃ moves, s'.sequence = moves.foldl SequenceId.moved s.sequence ∧
    attemptedIds done = s.sequence.handedOut moves

namespace Counts

variable {s s' s'' : Session} {done later : List Entry}

/-- Where the counter stays and nothing is attempted, there is no move. -/
theorem of_eq (hsequence : s'.sequence = s.sequence) (hdone : attemptedIds done = []) :
    Counts s s' done :=
  ⟨[], hsequence, hdone⟩

/-- Moves follow one another as deeds do. -/
theorem trans (h : Counts s s' done) (h' : Counts s' s'' later) :
    Counts s s'' (later ++ done) := by
  obtain ⟨moves, hsequence, hids⟩ := h
  obtain ⟨moves', hsequence', hids'⟩ := h'
  refine ⟨moves ++ moves', ?_, ?_⟩
  · rw [List.foldl_append, ← hsequence, hsequence']
  · rw [attemptedIds_append, SequenceId.handedOut_append, hids, hids', hsequence]

end Counts

/-- Handshakes leave the counter as it is. -/
theorem Device.sequence_greeted (s : Session) (header? : Option Header) :
    (greeted s header?).sequence = s.sequence := by
  cases header? <;> rfl

/-- A reply leaves the counter as it is or has it adopt an id. -/
theorem Judged.sequence_cases {s after : Session} {address method : String} {reply : Octets}
    {v : Verdict} (h : Judged s address method reply v after) :
    after.sequence = s.sequence ∨ ∃ id, after.sequence = s.sequence.observe id := by
  cases h with
  | forged | malformed | greeting | unfit => exact Or.inl rfl
  | usable header body answer =>
    rw [Session.sequence_observeReply]
    cases Response.idOf body with
    | none => exact Or.inl rfl
    | some id => exact Or.inr ⟨id, rfl⟩

section

variable {timeout : Millis} {attempts : Nat} {method : String} {params : Json}
  {extra : List (String × Json)} {due : Bool} {s after : Session} {verdict : Verdict}
  {done : List Entry}

/-- An attempt in itself hands out no id. -/
theorem Attempted.counts {request : Request}
    (h : Attempted s timeout request verdict after done) : Counts s after done := by
  have hids := attemptedIds_eq_nil fun e he => Or.inl (h.isWire e he)
  cases h with
  | unready | unframed | unanswered => exact .of_eq rfl hids
  | answered _ _ reply _ address =>
    obtain hkept | ⟨id, hadopted⟩ := (s.judged address request.method reply).sequence_cases
    · exact .of_eq hkept hids
    · exact ⟨[.observe id], hadopted, hids⟩

/-- A turn hands out the id of its attempt. -/
theorem Turn.counts (h : Turn timeout attempts method params extra due s verdict after done) :
    Counts s after done := by
  obtain ⟨ready, _, before, done, _, hbefore, hdone⟩ := h
  have hready : Counts s ready before := by
    have hids := attemptedIds_eq_nil hbefore.isWire_or_isHandshake
    cases hbefore with
    | kept => exact .of_eq rfl hids
    | greeted => exact .of_eq rfl hids
  obtain ⟨moves, hsequence, hids⟩ := hdone.counts
  -- The id is handed out before the attempt, and the entry that says it comes after.
  have hattempt : Counts ready after
      (.attempt (requestOf method params extra ready.nextId.currentId) verdict :: done) := by
    refine ⟨.next :: moves, hsequence, ?_⟩
    have hnone := attemptedIds_eq_nil fun e he => Or.inl (hdone.isWire e he)
    have hmoves : ready.sequence.next.handedOut moves = [] := hids.symm.trans hnone
    rw [SequenceId.handedOut, hmoves, ← List.singleton_append, attemptedIds_append, hnone]
    rfl
  exact hready.trans hattempt

/-- What is done between two attempts of a call moves the counter ahead at most. -/
theorem Verdict.counts_again {next : Session} {dueNext : Bool}
    (h : verdict.again? after = some (dueNext, next)) : Counts after next [] := by
  cases verdict with
  | success _ | fatal _ => cases h
  | recoverable report =>
    cases h
    exact .of_eq rfl rfl
  | transport e =>
    cases h
    exact ⟨[.skip retryIdStride], rfl, rfl⟩

/-- A call hands out the ids of its attempts. -/
theorem Course.counts {retries made : Nat} {result : Except DeviceError Json} {last : Session}
    (h : Course timeout attempts method params extra retries due made s result last done) :
    Counts s last done := by
  induction h with
  | unreached retries due made s address done hdue hdone =>
    exact .of_eq rfl (attemptedIds_eq_nil hdone.isWire_or_isHandshake)
  | ended retries due made s after done verdict result hturn hresult => exact hturn.counts
  | spent due made s after done verdict e hturn hresult => exact hturn.counts
  | again retries due made s after next last done later verdict dueNext result hturn hnext hlater
      ih =>
    exact (hturn.counts.trans (Verdict.counts_again hnext)).trans ih

end

namespace Device

variable {σ : Type}

/-- A handshake moves no counter. -/
theorem sequence_sendHandshake (d : Device σ) :
    d.sendHandshake.2.session.sequence = d.session.sequence := by
  obtain ⟨header?, done, -, -, hsession, -⟩ := d.exists_greeting_sendHandshake
  rw [hsession, sequence_greeted]

/-- On the way from one device to another the ids of the attempts are handed out. -/
theorem Onward.exists_counts {d d' : Device σ} {issued : List Command}
    (h : Onward d d' issued) :
    ∃ done, d'.deeds = done ++ d.deeds ∧ Counts d.session d'.session done := by
  induction h with
  | here => exact ⟨[], rfl, .of_eq rfl rfl⟩
  | note d' issued n _ ih => exact ih
  | handshake d' issued _ ih =>
    obtain ⟨done, hdeeds, hcounts⟩ := ih
    obtain ⟨header?, later, hlater, hlaterDeeds, -⟩ := d'.exists_greeting_sendHandshake
    refine ⟨later ++ done, ?_, hcounts.trans (.of_eq d'.sequence_sendHandshake ?_)⟩
    · rw [hlaterDeeds, hdeeds, List.append_assoc]
    · exact attemptedIds_eq_nil hlater.isWire_or_isHandshake
  | command d' issued method params options _ ih =>
    obtain ⟨done, hdeeds, hcounts⟩ := ih
    obtain ⟨later, hlater, hlaterDeeds, -⟩ := d'.exists_course_sendWith method params options
    have hcommand : Counts d'.session d'.session [.command method params options.extra] :=
      .of_eq rfl rfl
    refine ⟨later ++ ([.command method params options.extra] ++ done), ?_,
      (hcounts.trans hcommand).trans hlater.counts⟩
    rw [hlaterDeeds, hdeeds, List.append_assoc, List.append_assoc]
    rfl

/-- In every run of a new client, whatever the transport answers, the ids of the attempts are what
a counter hands out along some moves, each of them from 1 to 9998. So are the ids that any counter
hands out along any moves: the next id is one more or one again, and moving ahead stops at the
greatest number. Handshakes, and what they do to a session, leave the counter as it is. -/
theorem request_ids_in_range (transport : Transport σ) (state : σ) (token : Token)
    (config : DeviceConfig) (calls : List Call) :
    (∃ moves, attemptedIds ((Device.new transport state token config).run calls).2.deeds =
        SequenceId.start.handedOut moves) ∧
      (∀ id ∈ attemptedIds ((Device.new transport state token config).run calls).2.deeds,
        1 ≤ id.toNat ∧ id.toNat ≤ 9998) ∧
      (∀ (s : SequenceId) (moves : List SequenceId.Move), ∀ id ∈ s.handedOut moves,
        1 ≤ id.toNat ∧ id.toNat ≤ 9998) ∧
      (∀ s : SequenceId, s.next.current.toNat =
        if s.current.toNat + 1 < 9999 then s.current.toNat + 1 else 1) ∧
      (∀ (s : SequenceId) (stride : UInt32), (s.skip stride).current.toNat =
        min (s.current.toNat + stride.toNat) 4294967295) ∧
      (∀ d : Device σ, d.sendHandshake.2.session.sequence = d.session.sequence) ∧
      ∀ (s : Session) (deviceId timestamp : UInt32),
        (s.establish deviceId timestamp).sequence = s.sequence ∧
          s.invalidate.sequence = s.sequence := by
  obtain ⟨issued, -, honward⟩ :=
    exists_onward_run calls (Device.new transport state token config)
  obtain ⟨done, hdeeds, moves, -, hids⟩ := honward.exists_counts
  have hall : attemptedIds ((Device.new transport state token config).run calls).2.deeds =
      SequenceId.start.handedOut moves := by
    rw [hdeeds, attemptedIds_append]
    exact hids
  refine ⟨⟨moves, hall⟩, ?_, SequenceId.bounds_of_mem_handedOut, SequenceId.toNat_current_next,
    ?_, sequence_sendHandshake, fun s deviceId timestamp => ⟨rfl, rfl⟩⟩
  · intro id hid
    rw [hall] at hid
    exact SequenceId.bounds_of_mem_handedOut _ _ id hid
  · intro s stride
    exact SequenceId.toNat_cappedAdd s.current stride

end Device

end Appliance
