import Appliance.Proofs.Runs

/-!
# What is on the wire

In every run of a client, whatever the transport answers, each datagram that is no handshake is a
request of the latest command, for the device of the latest handshake and for the clock after the
one accepted last. The commands are those of the calls, in their order, so that all attempts of a
call ask for the same.

Handshakes and commands lead from one device to another; what is shown of each is which commands
are given, and that the session goes on keeping what the deeds say.
-/

namespace Appliance

/-- The command that an entry says. -/
def Entry.command? : Entry → Option Command
  | .command method params extra => some ⟨method, params, extra⟩
  | .wire _ | .handshake _ | .attempt _ _ | .note _ => none

/-- The commands among some deeds, the earliest first. -/
def commands (done : List Entry) : List Command := (done.filterMap Entry.command?).reverse

/-- Commands among deeds that follow one another, the later ones in front. -/
@[simp] theorem commands_append (later before : List Entry) :
    commands (later ++ before) = commands before ++ commands later := by
  rw [commands, List.filterMap_append, List.reverse_append]
  rfl

/-- A command comes after those before it. -/
@[simp] theorem commands_command (method : String) (params : Json) (extra : List (String × Json))
    (before : List Entry) :
    commands (.command method params extra :: before) =
      commands before ++ [⟨method, params, extra⟩] :=
  List.reverse_cons

/-- The end of an attempt is no command. -/
@[simp] theorem commands_attempt (request : Request) (v : Verdict) (before : List Entry) :
    commands (.attempt request v :: before) = commands before := rfl

/-- Operations of a transport and ends of handshakes are no commands. -/
theorem Entry.command?_eq_none (e : Entry) (h : e.isWire = true ∨ e.isHandshake = true) :
    e.command? = none := by
  cases e with
  | command method params extra => simp [isWire, isHandshake] at h
  | wire _ | handshake _ | attempt _ _ | note _ => rfl

/-- Deeds that are no commands hold none. -/
theorem commands_eq_nil {done : List Entry} (h : ∀ e ∈ done, e.command? = none) :
    commands done = [] := by
  rw [commands, List.reverse_eq_nil_iff, List.filterMap_eq_nil_iff]
  exact h

/-- Handshakes are no commands. -/
theorem Greeting.commands_eq {timeout : Millis} {attempts : Nat} {header? : Option Header}
    {done : List Entry} (h : Greeting timeout attempts header? done) : commands done = [] :=
  commands_eq_nil fun e he => e.command?_eq_none (h.isWire_or_isHandshake e he)

/-- A turn holds no command. -/
theorem Turn.commands_eq {timeout : Millis} {attempts : Nat} {method : String} {params : Json}
    {extra : List (String × Json)} {due : Bool} {s after : Session} {verdict : Verdict}
    {done : List Entry}
    (h : Turn timeout attempts method params extra due s verdict after done) :
    commands done = [] := by
  obtain ⟨ready, _, before, done, _, hbefore, hdone⟩ := h
  refine commands_eq_nil fun e he => ?_
  rcases List.mem_cons.mp he with rfl | he
  · rfl
  · rcases List.mem_append.mp he with he | he
    · exact e.command?_eq_none (Or.inl (hdone.isWire e he))
    · exact e.command?_eq_none (hbefore.isWire_or_isHandshake e he)

/-- The course of a call holds no command. -/
theorem Course.commands_eq {timeout : Millis} {attempts : Nat} {method : String} {params : Json}
    {extra : List (String × Json)} {retries made : Nat} {due : Bool} {s last : Session}
    {result : Except DeviceError Json} {done : List Entry}
    (h : Course timeout attempts method params extra retries due made s result last done) :
    commands done = [] := by
  induction h with
  | unreached retries due made s address done hdue hdone => exact hdone.commands_eq
  | ended retries due made s after done verdict result hturn hresult => exact hturn.commands_eq
  | spent due made s after done verdict e hturn hresult => exact hturn.commands_eq
  | again retries due made s after next last done later verdict dueNext result hturn hnext hlater
      ih =>
    rw [commands_append, ih, hturn.commands_eq]
    rfl

/-! ## Calls -/

namespace Device

variable {σ : Type}

/-- From one device to another the session goes on keeping what the deeds say, and some commands are
given. -/
structure Leads (token : Token) (d d' : Device σ) (issued : List Command) : Prop where
  keeps : Keeps token d.session d.deeds → Keeps token d'.session d'.deeds
  commands_eq : commands d'.deeds = commands d.deeds ++ issued

namespace Leads

variable {token : Token} {d d' d'' : Device σ} {issued later : List Command}

/-- A device leads to itself with a note. -/
theorem note (h : Leads token d d' issued) (n : Note) : Leads token d (d'.note n) issued :=
  ⟨h.keeps, h.commands_eq⟩

/-- What leads on from a device leads on from what led there. -/
theorem trans (h : Leads token d d' issued) (h' : Leads token d' d'' later) :
    Leads token d d'' (issued ++ later) :=
  ⟨fun hd => h'.keeps (h.keeps hd), by
    rw [h'.commands_eq, h.commands_eq, List.append_assoc]⟩

/-- A device leads to itself. -/
theorem refl (token : Token) (d : Device σ) : Leads token d d [] :=
  ⟨id, (List.append_nil _).symm⟩

end Leads

/-- A handshake gives no command. -/
theorem leads_sendHandshake (token : Token) (d : Device σ) :
    Leads token d d.sendHandshake.2 [] := by
  obtain ⟨header?, done, hdone, hdeeds, hsession, -⟩ := d.exists_greeting_sendHandshake
  refine ⟨?_, ?_⟩
  · intro hd
    obtain ⟨hwell, -, hheader⟩ := hdone.latest_eq token d.deeds hd.well
    rw [hdeeds, hsession]
    cases header? with
    | none => exact Keeps.invalidate hd.token_eq hwell
    | some header =>
      refine ⟨hd.token_eq, ?_, hwell⟩
      intro id hid
      cases hid
      exact hheader header rfl
  · rw [hdeeds, commands_append, hdone.commands_eq]

/-- A call with options gives its command. -/
theorem leads_sendWith (token : Token) (d : Device σ) (method : String) (params : Json)
    (options : SendOptions) :
    Leads token d (d.sendWith method params options).2 [⟨method, params, options.extra⟩] := by
  obtain ⟨done, hdone, hdeeds, -⟩ := d.exists_course_sendWith method params options
  refine ⟨?_, ?_⟩
  · intro hd
    rw [hdeeds]
    exact hdone.keeps token _ ⟨hd.token_eq, hd.device, trivial, hd.well⟩ rfl
  · rw [hdeeds, commands_append, hdone.commands_eq, List.append_nil, commands_command]

/-- What a device becomes, the device leads to. -/
theorem Onward.leads {d d' : Device σ} {issued : List Command} (h : Onward d d' issued)
    (token : Token) : Leads token d d' issued := by
  induction h with
  | here => exact .refl token d
  | note d' issued n _ ih => exact ih.note n
  | handshake d' issued _ ih =>
    rw [← List.append_nil issued]
    exact ih.trans (d'.leads_sendHandshake token)
  | command d' issued method params options _ ih =>
    exact ih.trans (d'.leads_sendWith token method params options)

/-- Calls in turn give their commands in turn. -/
theorem exists_leads_run (token : Token) (calls : List Call) (d : Device σ) :
    ∃ issued, List.Forall₂ Call.Issues calls issued ∧
      Leads token d (d.run calls).2 issued.flatten := by
  obtain ⟨issued, hissued, honward⟩ := exists_onward_run calls d
  exact ⟨issued, hissued, honward.leads token⟩

/-- In every run of a new client, a datagram is a handshake or a request: one of the latest command,
with parameters that are null replaced by an empty list, in a frame that is authentic under the
token, has nothing in the reserved word, and carries the id that the latest handshake told and the
clock after the one of the header accepted last. Every attempt asks for what the latest command
says, and the commands are those of the calls in turn. -/
theorem requests_of_run (transport : Transport σ) (state : σ) (token : Token)
    (config : DeviceConfig) (calls : List Call) :
    (∀ data answer before,
      .wire (.send data answer) :: before <:+
          ((Device.new transport state token config).run calls).2.deeds →
        data = Frame.handshake ∨
          ∃ command id deviceId clock, latestCommand before = some command ∧
            latestDevice before = some deviceId ∧ latestClock token before = some clock ∧
            Carries token data deviceId (clock + 1)
              ⟨id, command.method, if command.params = .null then .array [] else command.params,
                Json.sortMembers command.extra⟩) ∧
      (∀ request verdict before,
        .attempt request verdict :: before <:+
            ((Device.new transport state token config).run calls).2.deeds →
          ∃ command id, latestCommand before = some command ∧
            request =
              ⟨id, command.method, if command.params = .null then .array [] else command.params,
                Json.sortMembers command.extra⟩) ∧
      ∃ issued, List.Forall₂ Call.Issues calls issued ∧
        commands ((Device.new transport state token config).run calls).2.deeds =
          issued.flatten := by
  obtain ⟨issued, hissued, hlead⟩ :=
    exists_leads_run token calls (Device.new transport state token config)
  have hkeeps := hlead.keeps ⟨rfl, nofun, trivial⟩
  refine ⟨?_, ?_, issued, hissued, hlead.commands_eq⟩
  · intro data answer before hsuffix
    exact hkeeps.well.of_suffix token _ before _ hsuffix
  · intro request verdict before hsuffix
    exact hkeeps.well.of_suffix token _ before _ hsuffix

end Device

end Appliance
