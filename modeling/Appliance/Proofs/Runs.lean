import Appliance.Proofs.Baseline
import Mathlib.Data.List.Forall2

/-!
# Runs of calls

Whatever is called, a device does three things only: it notes something, it makes handshakes, or it
makes the requests of a command. A run leads from one device to another by these steps, so that what
each of the three keeps, every run keeps. The commands on the way are those of the calls in turn.

No attempt is made without a session with the device. What holds of one attempt in such a session
thus holds of every attempt of a run.
-/

namespace Appliance

/-- The commands that a call gives, in order, if nothing ends it before. -/
def Call.commands : Call → List Command
  | .handshake => []
  | .send method params => [⟨method, params, []⟩]
  | .sendWith method params options => [⟨method, params, options.extra⟩]
  | .sendTyped method params _ => [⟨method, params, []⟩]
  | .info => [⟨infoMethod, .array [], []⟩]
  | .getProperties properties getter most =>
    (Device.pieces (Device.pieceSize properties.length most) properties.length properties).map
      fun piece => ⟨getter.getD propertyMethod, .array piece, []⟩

/-- Some commands are what a call gives: the first ones of its commands, and none only if it has
none. -/
def Call.Issues (call : Call) (issued : List Command) : Prop :=
  issued <+: call.commands ∧ (issued = [] → call.commands = [])

namespace Device

variable {σ : Type}

/-- The devices that one device can become, with the commands given on the way. -/
inductive Onward (d : Device σ) : Device σ → List Command → Prop
  | here : Onward d d []
  | note (d' : Device σ) (issued : List Command) (n : Note) (h : Onward d d' issued) :
      Onward d (d'.note n) issued
  | handshake (d' : Device σ) (issued : List Command) (h : Onward d d' issued) :
      Onward d d'.sendHandshake.2 issued
  | command (d' : Device σ) (issued : List Command) (method : String) (params : Json)
      (options : SendOptions) (h : Onward d d' issued) :
      Onward d (d'.sendWith method params options).2
        (issued ++ [⟨method, params, options.extra⟩])

/-- What a device becomes later, it becomes by way of what it becomes before. -/
theorem Onward.trans {d d' d'' : Device σ} {issued later : List Command}
    (h : Onward d d' issued) (h' : Onward d' d'' later) : Onward d d'' (issued ++ later) := by
  induction h' with
  | here =>
    rw [List.append_nil]
    exact h
  | note next later n _ ih => exact .note next _ n ih
  | handshake next later _ ih => exact .handshake next _ ih
  | command next later method params options _ ih =>
    rw [← List.append_assoc]
    exact .command next _ method params options ih

/-- A call gives its command. -/
theorem onward_send (d : Device σ) (method : String) (params : Json) :
    Onward d (d.send method params).2 [⟨method, params, []⟩] :=
  .command d [] method params .default .here

/-- A device asked about itself is given one command. -/
theorem onward_info (d : Device σ) : Onward d d.info.2 [⟨infoMethod, .array [], []⟩] := by
  have hnoted : Onward d (d.note .infoRequested) [] := .note d [] .infoRequested .here
  have hsend := hnoted.trans ((d.note .infoRequested).onward_send infoMethod (.array []))
  unfold info
  generalize (d.note .infoRequested).send infoMethod (.array []) = sent at hsend ⊢
  obtain ⟨result, after⟩ := sent
  cases result with
  | error e => cases e <;> exact hsend
  | ok v =>
    dsimp only
    split
    · exact hsend
    · exact .note after _ _ hsend

/-- Pieces of properties are asked for in turn until one is not answered by a list. -/
theorem exists_onward_collect (getter : String) (all : List (List Json)) (values : List Json)
    (d : Device σ) :
    ∃ issued, issued <+: all.map (fun piece => (⟨getter, .array piece, []⟩ : Command)) ∧
      (issued = [] → all = []) ∧ Onward d (collect getter all values d).2 issued := by
  induction all generalizing values d with
  | nil => exact ⟨[], List.prefix_refl [], fun _ => rfl, .here⟩
  | cons piece rest ih =>
    have hsend := d.onward_send getter (.array piece)
    have hone : [(⟨getter, .array piece, []⟩ : Command)] <+:
        (piece :: rest).map (fun piece => (⟨getter, .array piece, []⟩ : Command)) :=
      ⟨_, rfl⟩
    unfold collect
    generalize d.send getter (.array piece) = sent at hsend ⊢
    obtain ⟨result, after⟩ := sent
    cases result with
    | error e => exact ⟨_, hone, nofun, hsend⟩
    | ok v =>
      cases v with
      | array more =>
        obtain ⟨issued, hissued, -, hlater⟩ := ih (values ++ more) after
        exact ⟨_, List.cons_prefix_cons.mpr ⟨rfl, hissued⟩, nofun, hsend.trans hlater⟩
      | null | bool _ | number _ | string _ | object _ => exact ⟨_, hone, nofun, hsend⟩

/-- A call gives commands of its own. -/
theorem exists_onward_perform (d : Device σ) (call : Call) :
    ∃ issued, call.Issues issued ∧ Onward d (d.perform call).2 issued := by
  have hall (call : Call) : call.Issues call.commands := ⟨List.prefix_refl _, id⟩
  cases call with
  | handshake => exact ⟨_, hall .handshake, .handshake d [] .here⟩
  | send method params => exact ⟨_, hall (.send method params), d.onward_send method params⟩
  | sendWith method params options =>
    exact ⟨_, hall (.sendWith method params options), .command d [] method params options .here⟩
  | sendTyped method params convert =>
    refine ⟨_, hall (.sendTyped method params convert), ?_⟩
    have hsend := d.onward_send method params
    unfold perform
    dsimp only
    generalize d.send method params = sent at hsend ⊢
    obtain ⟨result, after⟩ := sent
    cases result <;> exact hsend
  | info => exact ⟨_, hall .info, d.onward_info⟩
  | getProperties properties getter most =>
    obtain ⟨issued, hissued, hnone, honward⟩ := exists_onward_collect
      (getter.getD propertyMethod)
      (pieces (pieceSize properties.length most) properties.length properties) [] d
    refine ⟨issued, ⟨hissued, ?_⟩, ?_⟩
    · intro hnil
      rw [Call.commands, hnone hnil]
      rfl
    · unfold perform getProperties
      dsimp only
      generalize collect (getter.getD propertyMethod)
        (pieces (pieceSize properties.length most) properties.length properties) [] d =
        collected at honward ⊢
      obtain ⟨result, after⟩ := collected
      cases result with
      | error e => exact honward
      | ok values =>
        dsimp only
        split
        · exact .note after _ _ honward
        · exact honward

/-- Calls in turn give their commands in turn. -/
theorem exists_onward_run (calls : List Call) (d : Device σ) :
    ∃ issued, List.Forall₂ Call.Issues calls issued ∧
      Onward d (d.run calls).2 issued.flatten := by
  induction calls generalizing d with
  | nil => exact ⟨[], .nil, .here⟩
  | cons call calls ih =>
    obtain ⟨issued, hissued, honward⟩ := d.exists_onward_perform call
    obtain ⟨later, hlater, honwardLater⟩ := ih (d.perform call).2
    exact ⟨issued :: later, .cons hissued hlater, honward.trans honwardLater⟩

end Device

/-! ## Every attempt -/

/-- A request is made in a session with the device. -/
theorem Prepared.isReady {s ready : Session} {timeout : Millis} {attempts : Nat} {due : Bool}
    {done : List Entry} (h : Prepared s timeout attempts due ready done) :
    ready.isReady = true := by
  cases h with
  | kept _ hready => exact hready
  | greeted header done _ _ => rfl

/-- Something holds of every attempt to make a request that a call can make in a session with the
device, the id being the next one of the session. -/
def HoldsOfAttempts (P : Request → Verdict → Prop) : Prop :=
  ∀ (ready after : Session) (timeout : Millis) (method : String) (params : Json)
    (extra : List (String × Json)) (verdict : Verdict) (done : List Entry),
    ready.isReady = true →
    Attempted ready.nextId timeout (requestOf method params extra ready.nextId.currentId) verdict
      after done →
    P (requestOf method params extra ready.nextId.currentId) verdict

namespace HoldsOfAttempts

variable {P : Request → Verdict → Prop} {timeout : Millis} {attempts : Nat} {request : Request}
  {verdict : Verdict}

/-- A greeting holds no attempt. -/
theorem not_mem_greeting {header? : Option Header} {done : List Entry}
    (h : Greeting timeout attempts header? done) : .attempt request verdict ∉ done := by
  intro hmem
  simpa [Entry.isWire, Entry.isHandshake] using h.isWire_or_isHandshake _ hmem

/-- What holds of every attempt holds of the attempt of a turn. -/
theorem of_turn (hP : HoldsOfAttempts P) {method : String} {params : Json}
    {extra : List (String × Json)} {due : Bool} {s after : Session} {v : Verdict}
    {done : List Entry}
    (h : Turn timeout attempts method params extra due s v after done)
    (hmem : .attempt request verdict ∈ done) : P request verdict := by
  obtain ⟨ready, _, before, done, _, hbefore, hdone⟩ := h
  rw [List.mem_cons, List.mem_append] at hmem
  obtain heq | hmem | hmem := hmem
  · cases heq
    exact hP ready _ timeout method params extra verdict done hbefore.isReady hdone
  · simpa [Entry.isWire] using hdone.isWire _ hmem
  · simpa [Entry.isWire, Entry.isHandshake] using hbefore.isWire_or_isHandshake _ hmem

/-- What holds of every attempt holds of those of a call. -/
theorem of_course (hP : HoldsOfAttempts P) {method : String} {params : Json}
    {extra : List (String × Json)} {retries made : Nat} {due : Bool} {s last : Session}
    {result : Except DeviceError Json} {done : List Entry}
    (h : Course timeout attempts method params extra retries due made s result last done)
    (hmem : .attempt request verdict ∈ done) : P request verdict := by
  induction h with
  | unreached retries due made s address done hdue hdone =>
    exact absurd hmem (not_mem_greeting hdone)
  | ended retries due made s after done v result hturn hresult => exact hP.of_turn hturn hmem
  | spent due made s after done v e hturn hresult => exact hP.of_turn hturn hmem
  | again retries due made s after next last done later v dueNext result hturn hnext hlater ih =>
    rw [List.mem_append] at hmem
    obtain hmem | hmem := hmem
    · exact ih hmem
    · exact hP.of_turn hturn hmem

/-- What holds of every attempt holds of those that a device makes on its way to another. -/
theorem of_onward (hP : HoldsOfAttempts P) {σ : Type} {d d' : Device σ} {issued : List Command}
    (h : Device.Onward d d' issued) (hmem : .attempt request verdict ∈ d'.deeds) :
    .attempt request verdict ∈ d.deeds ∨ P request verdict := by
  induction h with
  | here => exact Or.inl hmem
  | note d' issued n _ ih => exact ih hmem
  | handshake d' issued _ ih =>
    obtain ⟨header?, done, hdone, hdeeds, -⟩ := d'.exists_greeting_sendHandshake
    rw [hdeeds, List.mem_append] at hmem
    exact ih (hmem.resolve_left (not_mem_greeting hdone))
  | command d' issued method params options _ ih =>
    obtain ⟨done, hdone, hdeeds, -⟩ := d'.exists_course_sendWith method params options
    rw [hdeeds, List.mem_append, List.mem_cons] at hmem
    obtain hmem | heq | hmem := hmem
    · exact Or.inr (hP.of_course hdone hmem)
    · cases heq
    · exact ih hmem

/-- What holds of every attempt holds of those that a device makes in a run. -/
theorem of_run (hP : HoldsOfAttempts P) {σ : Type} (d : Device σ) (calls : List Call)
    (hmem : .attempt request verdict ∈ (d.run calls).2.deeds) :
    .attempt request verdict ∈ d.deeds ∨ P request verdict := by
  obtain ⟨issued, -, honward⟩ := d.exists_onward_run calls
  exact hP.of_onward honward hmem

end HoldsOfAttempts

end Appliance
