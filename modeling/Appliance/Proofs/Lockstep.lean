import Appliance.Proofs.ErrorClasses
import Appliance.Proofs.SocketScopes

/-!
# Devices in lockstep

Two devices, each on a transport of its own, are compared while both hear the same script: the same
answers when they open connections, send and receive. What their closings answer may differ at every
place. Devices are abreast while they have done the same, and an action on both is in lockstep if it
leaves them abreast and gives results that are alike.

That is shown of an exchange by the script, which tells the two ways of an exchange apart before they
part. From there on it is put together: actions in lockstep, one after another, are in lockstep, and so
are actions that depend on nothing but the session and the settings.

All of this is about what is added to journals, so that the two devices may have different pasts. Errors
name the address of the other end, which is the transport's own; a relation says how the addresses of
the two transports go together, and results are alike if they are the same but for such addresses.
-/

namespace Appliance

/-! ## What is heard -/

/-- What a transport answers when a connection is opened, to a datagram, or to waiting for one. -/
inductive Heard where
  | connect (answer : Except TransportError Unit)
  | send (answer : Except TransportError Unit)
  | receive (answer : Except TransportError Octets)

namespace Wire

/-- The answer of an operation other than closing. -/
def heard? : Wire → Option Heard
  | .connect answer => some (.connect answer)
  | .send _ answer => some (.send answer)
  | .receive _ answer => some (.receive answer)
  | .disconnect _ => none

/-- The operation as if closing had not failed. -/
def settled : Wire → Wire
  | .connect answer => .connect answer
  | .send data answer => .send data answer
  | .receive timeout answer => .receive timeout answer
  | .disconnect _ => .disconnect (.ok ())

end Wire

/-- What is heard in some operations. -/
def heard (ws : List Wire) : List Heard := ws.filterMap Wire.heard?

/-- Operations follow one another, and so does what is heard. -/
@[simp] theorem heard_append (ws later : List Wire) :
    heard (ws ++ later) = heard ws ++ heard later := List.filterMap_append

/-- The same is heard if closing does not fail. -/
theorem heard_map_settled (ws : List Wire) : heard (ws.map Wire.settled) = heard ws := by
  rw [heard, List.filterMap_map, heard]
  congr 1
  funext w
  cases w <;> rfl

/-- The same datagrams are sent if closing does not fail. -/
theorem datagrams_map_settled (ws : List Wire) :
    datagrams (ws.map Wire.settled) = datagrams ws := by
  rw [datagrams, List.filterMap_map, datagrams]
  congr 1
  funext w
  cases w <;> rfl

/-- Two exchanges of a datagram that hear the same as far as the first one goes do the same, and give
the same reply. -/
theorem Exchanged.eq_of_prefixed {data : Octets} {timeout : Millis}
    {reply reply' : Except TransportError Octets} {done done' : List Entry}
    (h : Exchanged data timeout reply done) (h' : Exchanged data timeout reply' done')
    (hheard : heard (operations done) <+: heard (operations done')) :
    reply = reply' ∧ (operations done).map Wire.settled = (operations done').map Wire.settled := by
  cases h <;> cases h' <;>
    simp_all [operations, heard, Entry.wire?, Wire.heard?, Wire.settled]

/-! ## Journals that go on alike -/

/-- What a journal adds to another one is heard from a script. -/
def Follows (script : List Heard) (base now : List Entry) : Prop :=
  ∃ done, now = done ++ base ∧ heard (operations done) <+: script

/-- Two journals add the same operations to two others, but for what closing answers. -/
def Alongside (base base' now now' : List Entry) : Prop :=
  ∃ done done', now = done ++ base ∧ now' = done' ++ base' ∧
    (operations done).map Wire.settled = (operations done').map Wire.settled

section

variable {script : List Heard} {base base' now now' : List Entry}

/-- What is heard by the end is heard on the way. -/
theorem Follows.of_suffix {mid : List Entry} (h : Follows script base now) (hbase : base <:+ mid)
    (hmid : mid <:+ now) : Follows script base mid := by
  obtain ⟨done, rfl, hdone⟩ := h
  obtain ⟨before, rfl⟩ := hbase
  obtain ⟨later, hlater⟩ := hmid
  rw [← List.append_assoc, List.append_cancel_right_eq] at hlater
  subst hlater
  refine ⟨before, rfl, ?_⟩
  rw [operations_append, heard_append] at hdone
  exact (List.prefix_append _ _).trans hdone

namespace Alongside

/-- Journals go on alike from themselves. -/
theorem refl (base base' : List Entry) : Alongside base base' base base' :=
  ⟨[], [], rfl, rfl, rfl⟩

/-- The first journal goes on. -/
theorem suffix (h : Alongside base base' now now') : base <:+ now := by
  obtain ⟨done, done', hnow, -, -⟩ := h
  exact ⟨done, hnow.symm⟩

/-- The second one goes on. -/
theorem suffix' (h : Alongside base base' now now') : base' <:+ now' := by
  obtain ⟨done, done', -, hnow', -⟩ := h
  exact ⟨done', hnow'.symm⟩

/-- Deeds are added that are no operations. -/
theorem silent (h : Alongside base base' now now') {later later' : List Entry}
    (hlater : operations later = []) (hlater' : operations later' = []) :
    Alongside base base' (later ++ now) (later' ++ now') := by
  obtain ⟨done, done', rfl, rfl, heq⟩ := h
  refine ⟨later ++ done, later' ++ done', ?_, ?_, ?_⟩
  · rw [List.append_assoc]
  · rw [List.append_assoc]
  · rw [operations_append, operations_append, hlater, hlater', List.append_nil, List.append_nil, heq]

/-- Exchanges are added that hear the same script. -/
theorem exchanged (h : Alongside base base' now now') {data : Octets} {timeout : Millis}
    {reply reply' : Except TransportError Octets} {done done' : List Entry}
    (hdone : Exchanged data timeout reply done) (hdone' : Exchanged data timeout reply' done')
    (hf : Follows script base (done ++ now)) (hf' : Follows script base' (done' ++ now')) :
    reply = reply' ∧ Alongside base base' (done ++ now) (done' ++ now') := by
  obtain ⟨before, before', rfl, rfl, heq⟩ := h
  obtain ⟨all, hall, hscript⟩ := hf
  obtain ⟨all', hall', hscript'⟩ := hf'
  rw [← List.append_assoc, List.append_cancel_right_eq] at hall hall'
  subst hall
  subst hall'
  have hsame : heard (operations before) = heard (operations before') := by
    rw [← heard_map_settled, heq, heard_map_settled]
  rw [operations_append, heard_append] at hscript hscript'
  rw [← hsame] at hscript'
  have hsettled : reply = reply' ∧
      (operations done).map Wire.settled = (operations done').map Wire.settled := by
    cases List.prefix_or_prefix_of_prefix hscript hscript' with
    | inl hprefix => exact hdone.eq_of_prefixed hdone' ((List.prefix_append_right_inj _).mp hprefix)
    | inr hprefix =>
      have hflipped := hdone'.eq_of_prefixed hdone ((List.prefix_append_right_inj _).mp hprefix)
      exact ⟨hflipped.1.symm, hflipped.2.symm⟩
  refine ⟨hsettled.1, done ++ before, done' ++ before', ?_, ?_, ?_⟩
  · rw [List.append_assoc]
  · rw [List.append_assoc]
  · rw [operations_append, operations_append, List.map_append, List.map_append, heq, hsettled.2]

end Alongside

end

/-! ## Results but for addresses -/

section

variable (R : String → String → Prop)

/-- Errors that are the same but for the addresses in them, which are in a relation. -/
inductive DeviceError.Alike : DeviceError → DeviceError → Prop
  | refl (e : DeviceError) : DeviceError.Alike e e
  | unreachable (address address' : String) (attempts : Nat) (h : R address address') :
      DeviceError.Alike (.unreachable address attempts) (.unreachable address' attempts)
  | invalidToken (address address' : String) (h : R address address') :
      DeviceError.Alike (.invalidToken address) (.invalidToken address')

/-- Results that are the same but for the addresses in their errors. -/
inductive ResultAlike {α : Type} : Except DeviceError α → Except DeviceError α → Prop
  | ok (a : α) : ResultAlike (.ok a) (.ok a)
  | error (e e' : DeviceError) (h : e.Alike R e') : ResultAlike (.error e) (.error e')

/-- Ends of attempts that are the same but for the addresses in their errors. -/
inductive Verdict.Alike : Verdict → Verdict → Prop
  | refl (v : Verdict) : Verdict.Alike v v
  | fatal (e e' : DeviceError) (h : e.Alike R e') : Verdict.Alike (.fatal e) (.fatal e')

end

section

variable {R : String → String → Prop}

/-- A result is itself. -/
theorem ResultAlike.refl {α : Type} (result : Except DeviceError α) :
    ResultAlike R result result := by
  cases result with
  | ok a => exact .ok a
  | error e => exact .error e e (.refl e)

/-- What is made of a value is made of it in both results. -/
theorem ResultAlike.map {α β : Type} {result result' : Except DeviceError α}
    (h : ResultAlike R result result') (f : α → β) :
    ResultAlike R (result.map f) (result'.map f) := by
  cases h with
  | ok a => exact .ok (f a)
  | error e e' h => exact .error e e' h

/-- Results that name the same addresses are the same. -/
theorem ResultAlike.eq {α : Type} {result result' : Except DeviceError α}
    (h : ResultAlike Eq result result') : result = result' := by
  cases h with
  | ok a => rfl
  | error e e' h =>
    cases h with
    | refl => rfl
    | unreachable address address' attempts h => rw [h]
    | invalidToken address address' h => rw [h]

/-- What is learnt by a command is the same but for the addresses that the command names. -/
theorem ResultAlike.learnt {sent sent' : Except DeviceError Json} (h : ResultAlike R sent sent') :
    ResultAlike R (Device.learnt sent) (Device.learnt sent') := by
  cases h with
  | ok v => exact .refl _
  | error e e' h =>
    cases h with
    | refl => exact .refl _
    | unreachable address address' attempts h => exact .error _ _ (.unreachable _ _ _ h)
    | invalidToken address address' h => exact .error _ _ (.invalidToken _ _ h)

/-- The address from which a reply comes has no part in how it is judged but to be named. -/
theorem Session.judge_alike (s : Session) {address address' : String} (h : R address address')
    (method : String) (reply : Octets) :
    (s.judge address method reply).1.Alike R (s.judge address' method reply).1 ∧
      (s.judge address method reply).2 = (s.judge address' method reply).2 := by
  unfold judge
  cases Frame.decode reply s.token with
  | error e =>
    refine ⟨?_, rfl⟩
    dsimp only
    split
    · exact .fatal _ _ (.invalidToken _ _ h)
    · exact .refl _
  | ok frame =>
    dsimp only
    split
    · exact ⟨.refl _, rfl⟩
    · split
      · exact ⟨.refl _, rfl⟩
      · exact ⟨.refl _, rfl⟩

end

/-! ## Devices abreast -/

/-- Two devices that have got equally far: in the same session, with the same settings, after the same
operations but for what closing answered. -/
structure Abreast {σ σ' : Type} (R : String → String → Prop) (base base' : List Entry)
    (d : Device σ) (d' : Device σ') : Prop where
  session : d.session = d'.session
  config : d.config = d'.config
  remote : ∀ s s', R (d.transport.remote s) (d'.transport.remote s')
  deeds : Alongside base base' d.deeds d'.deeds

/-- Two actions that keep devices abreast and give related results, if both hear the same script. What
they do is added to the journals. -/
structure Lockstep {σ σ' α : Type} (R : String → String → Prop) (Q : α → α → Prop)
    (f : Device σ → α × Device σ) (f' : Device σ' → α × Device σ') : Prop where
  grows : ∀ d, d.deeds <:+ (f d).2.deeds
  grows' : ∀ d', d'.deeds <:+ (f' d').2.deeds
  alike : ∀ (script : List Heard) (base base' : List Entry) (d : Device σ) (d' : Device σ'),
    Abreast R base base' d d' → Follows script base (f d).2.deeds →
      Follows script base' (f' d').2.deeds →
      Q (f d).1 (f' d').1 ∧ Abreast R base base' (f d).2 (f' d').2

/-- An action is one exchange of a datagram, with deeds and a result that depend on the reply. -/
def Exchanges {σ α : Type} (data : Octets) (result : Except TransportError Octets → α)
    (ends : Except TransportError Octets → List Entry) (f : Device σ → α × Device σ) : Prop :=
  ∀ d, ∃ reply done line, Exchanged data d.config.timeout reply done ∧
    f d = (result reply, { d with line }) ∧ line.deeds = ends reply ++ (done ++ d.deeds)

section

variable {σ σ' α β : Type} {R : String → String → Prop} {Q : α → α → Prop} {P : β → β → Prop}

namespace Abreast

open Device

variable {base base' : List Entry} {d : Device σ} {d' : Device σ'}

/-- Notes leave devices abreast. -/
theorem note (h : Abreast R base base' d d') (n n' : Note) :
    Abreast R base base' (d.note n) (d'.note n') :=
  ⟨h.session, h.config, h.remote, h.deeds⟩

/-- So do any number of them. -/
theorem noteAll (h : Abreast R base base' d d') (notes notes' : List Note) :
    Abreast R base base' (d.noteAll notes) (d'.noteAll notes') := by
  refine ⟨h.session, h.config, h.remote, ?_⟩
  rw [deeds_noteAll, deeds_noteAll]
  exact h.deeds

/-- So do deeds that are no operations. -/
theorem record (h : Abreast R base base' d d') {e e' : Entry} (he : operations [e] = [])
    (he' : operations [e'] = []) (hdeed : e.isNote = false) (hdeed' : e'.isNote = false) :
    Abreast R base base' (d.record e) (d'.record e') := by
  refine ⟨h.session, h.config, h.remote, ?_⟩
  rw [deeds_record _ _ hdeed, deeds_record _ _ hdeed']
  exact h.deeds.silent he he'

/-- So does whatever is done with both sessions. -/
theorem withSession (h : Abreast R base base' d d') {s s' : Session} (hs : s = s') :
    Abreast R base base' { d with session := s } { d' with session := s' } :=
  ⟨hs, h.config, h.remote, h.deeds⟩

/-- So do lines that go on alike. -/
theorem withLine (h : Abreast R base base' d d') {l : Line σ} {l' : Line σ'}
    (hl : Alongside base base' l.deeds l'.deeds) :
    Abreast R base base' { d with line := l } { d' with line := l' } :=
  ⟨h.session, h.config, h.remote, hl⟩

/-- An answered handshake makes the same session. -/
theorem establish (h : Abreast R base base' d d') (header : Header) :
    Abreast R base base' (d.establish header) (d'.establish header) := by
  have hnoted := h.noteAll (d.session.establishNotes header.deviceId header.timestamp)
    (d'.session.establishNotes header.deviceId header.timestamp)
  have hsession : d.session.establish header.deviceId header.timestamp =
      d'.session.establish header.deviceId header.timestamp := by
    rw [h.session]
  exact (hnoted.withSession hsession).note _ _

end Abreast

namespace Lockstep

open Device

/-- Actions without deeds. -/
theorem silent {f : Device σ → α × Device σ} {f' : Device σ' → α × Device σ'}
    (hdeeds : ∀ d, (f d).2.deeds = d.deeds) (hdeeds' : ∀ d', (f' d').2.deeds = d'.deeds)
    (h : ∀ base base' d d', Abreast R base base' d d' →
      Q (f d).1 (f' d').1 ∧ Abreast R base base' (f d).2 (f' d').2) : Lockstep R Q f f' where
  grows d := by rw [hdeeds d]
  grows' d' := by rw [hdeeds' d']
  alike _ base base' d d' hd _ _ := h base base' d d' hd

/-- Results that are there already. -/
theorem pure {a a' : α} (h : Q a a') :
    Lockstep R Q (fun d : Device σ => (a, d)) (fun d' : Device σ' => (a', d')) :=
  silent (fun _ => rfl) (fun _ => rfl) fun _ _ _ _ hd => ⟨h, hd⟩

/-- Results that are there already, and a note. -/
theorem pureNote {a a' : α} (h : Q a a') (n : Device σ → Note) (n' : Device σ' → Note) :
    Lockstep R Q (fun d : Device σ => (a, d.note (n d)))
      (fun d' : Device σ' => (a', d'.note (n' d'))) :=
  silent (fun _ => rfl) (fun _ => rfl) fun _ _ _ _ hd => ⟨h, hd.note _ _⟩

/-- One action follows another, with the result of the first. -/
theorem bind {f : Device σ → α × Device σ} {f' : Device σ' → α × Device σ'}
    {g : α → Device σ → β × Device σ} {g' : α → Device σ' → β × Device σ'}
    (hf : Lockstep R Q f f') (hQ : ∀ a, Q a a)
    (h : ∀ a a', Q a a' → Lockstep R P (g a) (g' a')) :
    Lockstep R P (fun d => g (f d).1 (f d).2) (fun d' => g' (f' d').1 (f' d').2) where
  grows d := (hf.grows d).trans ((h _ _ (hQ _)).grows _)
  grows' d' := (hf.grows' d').trans ((h _ _ (hQ _)).grows' _)
  alike script base base' d d' hd hs hs' := by
    -- The second action only adds to the journals, so that the first one heard the script too.
    have hmid : Follows script base (f d).2.deeds :=
      hs.of_suffix (hd.deeds.suffix.trans (hf.grows d)) ((h _ _ (hQ _)).grows _)
    have hmid' : Follows script base' (f' d').2.deeds :=
      hs'.of_suffix (hd.deeds.suffix'.trans (hf.grows' d')) ((h _ _ (hQ _)).grows' _)
    obtain ⟨hresult, hnext⟩ := hf.alike script base base' d d' hd hmid hmid'
    exact (h _ _ hresult).alike script base base' _ _ hnext hs hs'

/-- What is done may depend on the session and the settings. -/
theorem ofSession {f : Session → DeviceConfig → Device σ → α × Device σ}
    {f' : Session → DeviceConfig → Device σ' → α × Device σ'}
    (h : ∀ s config, Lockstep R Q (f s config) (f' s config)) :
    Lockstep R Q (fun d => f d.session d.config d) (fun d' => f' d'.session d'.config d') where
  grows d := (h _ _).grows d
  grows' d' := (h _ _).grows' d'
  alike script base base' d d' hd hs hs' := by
    rw [← hd.session, ← hd.config] at hs' ⊢
    exact (h _ _).alike script base base' d d' hd hs hs'

/-- Something without a deed comes before. -/
theorem after {f : Device σ → α × Device σ} {f' : Device σ' → α × Device σ'}
    (hf : Lockstep R Q f f') (u : Device σ → Device σ) (u' : Device σ' → Device σ')
    (hdeeds : ∀ d, (u d).deeds = d.deeds) (hdeeds' : ∀ d', (u' d').deeds = d'.deeds)
    (h : ∀ base base' d d', Abreast R base base' d d' → Abreast R base base' (u d) (u' d')) :
    Lockstep R Q (fun d => f (u d)) (fun d' => f' (u' d')) where
  grows d := hdeeds d ▸ hf.grows (u d)
  grows' d' := hdeeds' d' ▸ hf.grows' (u' d')
  alike script base base' d d' hd hs hs' :=
    hf.alike script base base' _ _ (h base base' d d' hd) hs hs'

/-- Something is made of both results. -/
theorem map {f : Device σ → α × Device σ} {f' : Device σ' → α × Device σ'}
    (hf : Lockstep R Q f f') (k : α → β) (hk : ∀ a a', Q a a' → P (k a) (k a')) :
    Lockstep R P (fun d => (k (f d).1, (f d).2)) (fun d' => (k (f' d').1, (f' d').2)) where
  grows := hf.grows
  grows' := hf.grows'
  alike script base base' d d' hd hs hs' := by
    obtain ⟨hresult, hnext⟩ := hf.alike script base base' d d' hd hs hs'
    exact ⟨hk _ _ hresult, hnext⟩

/-- A note comes before. -/
theorem afterNote {f : Device σ → α × Device σ} {f' : Device σ' → α × Device σ'}
    (hf : Lockstep R Q f f') (n : Device σ → Note) (n' : Device σ' → Note) :
    Lockstep R Q (fun d => f (d.note (n d))) (fun d' => f' (d'.note (n' d'))) :=
  hf.after _ _ (fun _ => rfl) (fun _ => rfl) fun _ _ _ _ hd => hd.note _ _

/-- A deed is recorded that is no operation. -/
theorem record {a a' : α} (h : Q a a') {e e' : Entry} (he : operations [e] = [])
    (he' : operations [e'] = []) (hdeed : e.isNote = false) (hdeed' : e'.isNote = false) :
    Lockstep R Q (fun d : Device σ => (a, d.record e)) (fun d' : Device σ' => (a', d'.record e')) where
  grows d := ⟨[e], (d.deeds_record e hdeed).symm⟩
  grows' d' := ⟨[e'], (d'.deeds_record e' hdeed').symm⟩
  alike _ _ _ _ _ hd _ _ := ⟨h, hd.record he he' hdeed hdeed'⟩

/-- An exchange of the same datagram is made, and the same is made of its reply. -/
theorem exchange {f : Device σ → α × Device σ} {f' : Device σ' → α × Device σ'} {data : Octets}
    {result : Except TransportError Octets → α} {ends : Except TransportError Octets → List Entry}
    (hf : Exchanges data result ends f) (hf' : Exchanges data result ends f')
    (hends : ∀ reply, operations (ends reply) = []) : Lockstep R Eq f f' where
  grows d := by
    obtain ⟨reply, done, line, -, heq, hline⟩ := hf d
    rw [heq]
    exact ⟨ends reply ++ done, by rw [List.append_assoc]; exact hline.symm⟩
  grows' d' := by
    obtain ⟨reply, done, line, -, heq, hline⟩ := hf' d'
    rw [heq]
    exact ⟨ends reply ++ done, by rw [List.append_assoc]; exact hline.symm⟩
  alike script base base' d d' hd hs hs' := by
    obtain ⟨reply, done, line, hdone, heq, hline⟩ := hf d
    obtain ⟨reply', done', line', hdone', heq', hline'⟩ := hf' d'
    rw [← hd.config] at hdone'
    rw [heq] at hs ⊢
    rw [heq'] at hs' ⊢
    have hmid : Follows script base (done ++ d.deeds) :=
      hs.of_suffix (hd.deeds.suffix.trans (List.suffix_append _ _)) ⟨ends reply, hline.symm⟩
    have hmid' : Follows script base' (done' ++ d'.deeds) :=
      hs'.of_suffix (hd.deeds.suffix'.trans (List.suffix_append _ _)) ⟨ends reply', hline'.symm⟩
    obtain ⟨hreply, halong⟩ := hd.deeds.exchanged hdone hdone' hmid hmid'
    subst hreply
    refine ⟨rfl, hd.withLine ?_⟩
    rw [hline, hline']
    exact halong.silent (hends reply) (hends reply)

end Lockstep

end

end Appliance
