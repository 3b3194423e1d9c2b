import Appliance.Proofs.DiscoverySets
import Appliance.Scanner
import Mathlib.Data.List.Induction

/-!
# What a scan for everyone reports

A scan reads what it receives up to the first error, passes over what has no header, and keeps four
things in step while it reads: the hosts that were seen, the list of devices, the devices that were
reported and their number. What it reports in the end are the devices whose host answered for the first
time, neither before the scan nor earlier in it, in the order in which they answered.

The reading stands behind some answers, and each answer moves it on by one. Where a scan does not get
as far as reading, nothing is received and nothing changes.
-/

namespace Appliance.Scanner

/-! ## What there is to report -/

/-- The datagrams that are received before the first error. -/
def received : List Reception → List (Octets × SocketAddress)
  | .ok datagram :: rest => datagram :: received rest
  | .error _ :: _ => []
  | [] => []

/-- The device that answers by a datagram: where it comes from, with what its header says. -/
def answer? (datagram : Octets × SocketAddress) : Option Discovered :=
  match Header.parse datagram.1 with
  | .ok header => some ⟨datagram.2, header.deviceId, header.timestamp, header.checksum⟩
  | .error _ => none

/-- The devices that answer before the first error, in order. -/
def answers (receptions : List Reception) : List Discovered := (received receptions).filterMap answer?

/-- The devices whose host is neither that of a device in a set nor that of one that answered
earlier. -/
def newcomers (seen : DiscoverySet) (devices : List Discovered) : List Discovered :=
  (devices.zipIdx.filter fun d => ¬ d.1.ip.IsHostAmong (seen.toList ++ devices.take d.2)).map (·.1)

/-- One more answer is that of a newcomer or not, and changes nothing for the earlier ones. -/
theorem newcomers_concat (seen : DiscoverySet) (devices : List Discovered) (d : Discovered) :
    newcomers seen (devices ++ [d]) = newcomers seen devices ++
      if d.ip.IsHostAmong (seen.toList ++ devices) then [] else [d] := by
  have hearlier : (devices.zipIdx.filter fun p =>
        ¬ p.1.ip.IsHostAmong (seen.toList ++ (devices ++ [d]).take p.2)) =
      devices.zipIdx.filter fun p => ¬ p.1.ip.IsHostAmong (seen.toList ++ devices.take p.2) := by
    apply List.filter_congr
    intro p hp
    have hplace := List.snd_lt_of_mem_zipIdx hp
    rw [List.take_append_of_le_length (by omega)]
  rw [newcomers, List.zipIdx_append, List.filter_append, List.map_append, hearlier, newcomers,
    List.zipIdx_singleton, List.filter_cons, List.filter_nil, Nat.zero_add, List.take_left]
  by_cases hseen : d.ip.IsHostAmong (seen.toList ++ devices)
  · simp [hseen]
  · simp [hseen]

/-- The hosts of a set with the newcomers are those of the set and of all who answered. -/
theorem isHostAmong_newcomers_iff (seen : DiscoverySet) (devices : List Discovered)
    (ip : IpAddress) :
    ip.IsHostAmong (seen.toList ++ newcomers seen devices) ↔
      ip.IsHostAmong (seen.toList ++ devices) := by
  induction devices using List.reverseRecOn with
  | nil => rfl
  | append_singleton devices d ih =>
    rw [newcomers_concat, ← List.append_assoc, ← List.append_assoc, IpAddress.isHostAmong_append, ih,
      IpAddress.isHostAmong_append _ _ [d], IpAddress.isHostAmong_singleton]
    by_cases hseen : d.ip.IsHostAmong (seen.toList ++ devices)
    · rw [if_pos hseen]
      simp only [IpAddress.not_isHostAmong_nil, or_false, iff_self_or]
      rintro rfl
      exact hseen
    · rw [if_neg hseen, IpAddress.isHostAmong_singleton]

/-! ## Reading -/

/-- Where reading stands behind some answers: the number of devices found, the devices reported, the
latest first, and the set. -/
structure StandsBehind (seen : DiscoverySet) (devices : List Discovered) (found : Nat)
    (reported : List Discovered) (now : DiscoverySet) : Prop where
  found_eq : found = (newcomers seen devices).length
  reported_eq : reported.reverse = newcomers seen devices
  toList_eq : now.toList = seen.toList ++ newcomers seen devices
  built : now.Built

namespace StandsBehind

variable {seen now : DiscoverySet} {devices reported : List Discovered} {found : Nat}

/-- A host was seen exactly if a device of it is in the set from before or answered. -/
theorem contains_iff (h : StandsBehind seen devices found reported now) (ip : IpAddress) :
    now.contains ip = true ↔ ip.IsHostAmong (seen.toList ++ devices) := by
  rw [h.built.contains_iff, h.toList_eq, isHostAmong_newcomers_iff]

/-- Behind an answer of a host that was seen everything is as before. -/
theorem again (h : StandsBehind seen devices found reported now) (d : Discovered)
    (hseen : now.contains d.ip = true) :
    StandsBehind seen (devices ++ [d]) found reported now := by
  have hkept : newcomers seen (devices ++ [d]) = newcomers seen devices := by
    rw [newcomers_concat, if_pos ((h.contains_iff d.ip).mp hseen), List.append_nil]
  exact ⟨hkept ▸ h.found_eq, hkept ▸ h.reported_eq, hkept ▸ h.toList_eq, h.built⟩

/-- Behind an answer of another host there is one device more. -/
theorem first (h : StandsBehind seen devices found reported now) (d : Discovered)
    (hnew : ¬ now.contains d.ip = true) :
    StandsBehind seen (devices ++ [d]) (found + 1) (d :: reported) (now.insert d).2 := by
  have hmore : newcomers seen (devices ++ [d]) = newcomers seen devices ++ [d] := by
    rw [newcomers_concat, if_neg (fun hseen => hnew ((h.contains_iff d.ip).mpr hseen))]
  refine ⟨?_, ?_, ?_, .insert now d h.built⟩
  · rw [hmore, List.length_append, List.length_singleton, h.found_eq]
  · rw [hmore, List.reverse_cons, h.reported_eq]
  · rw [hmore, ← List.append_assoc, ← h.toList_eq, DiscoverySet.insert_of_not_contains hnew]
    rfl

end StandsBehind

/-- Some receptions end at an error, and others are left behind it, or they end with the time. -/
def EndsBefore (receptions unread : List Reception) : Prop :=
  (∃ e, receptions = (received receptions).map .ok ++ .error e :: unread) ∨
    (receptions = (received receptions).map .ok ∧ unread = [])

/-- A datagram that is received stands in front of the others. -/
theorem EndsBefore.cons {receptions unread : List Reception} (h : EndsBefore receptions unread)
    (datagram : Octets × SocketAddress) : EndsBefore (.ok datagram :: receptions) unread := by
  obtain ⟨e, he⟩ | ⟨hall, hnone⟩ := h
  · exact Or.inl ⟨e, congrArg (List.cons (.ok datagram)) he⟩
  · exact Or.inr ⟨congrArg (List.cons (.ok datagram)) hall, hnone⟩

section

variable {found : Nat} {reported : List Discovered} {now : DiscoverySet} {data : Octets}
  {source : SocketAddress} {rest : List Reception}

/-- What has no header is passed over. -/
theorem listen_of_parse_error {e : ProtocolError} (h : Header.parse data = .error e) :
    listen found reported now (.ok (data, source) :: rest) = listen found reported now rest := by
  rw [listen, h]

/-- An answer of a host that was seen is passed over. -/
theorem listen_of_contains {header : Header} (h : Header.parse data = .ok header)
    (hseen : now.contains source.ip = true) :
    listen found reported now (.ok (data, source) :: rest) = listen found reported now rest := by
  rw [listen, h]
  dsimp only
  rw [DiscoverySet.insert_of_contains hseen]

/-- An answer of another host is reported, counted and added to the set. -/
theorem listen_of_not_contains {header : Header} (h : Header.parse data = .ok header)
    (hnew : ¬ now.contains source.ip = true) :
    listen found reported now (.ok (data, source) :: rest) =
      listen (found + 1) (.ofHeader source header :: reported)
        (now.insert (.ofHeader source header)).2 rest := by
  rw [listen, h]
  dsimp only
  rw [DiscoverySet.insert_of_not_contains hnew]

end

/-- Reading on from a place gets behind all answers that come before the first error. -/
theorem exists_listen_eq {seen now : DiscoverySet} {devices reported : List Discovered} {found : Nat}
    (h : StandsBehind seen devices found reported now) (receptions : List Reception) :
    ∃ found' reported' now' unread,
      listen found reported now receptions = ⟨.ok found', reported'.reverse, now', unread⟩ ∧
        StandsBehind seen (devices ++ answers receptions) found' reported' now' ∧
        EndsBefore receptions unread := by
  induction receptions generalizing devices found reported now with
  | nil =>
    refine ⟨found, reported, now, [], rfl, ?_, Or.inr ⟨rfl, rfl⟩⟩
    rwa [answers, received, List.filterMap_nil, List.append_nil]
  | cons reception rest ih =>
    cases reception with
    | error e =>
      refine ⟨found, reported, now, rest, rfl, ?_, Or.inl ⟨e, rfl⟩⟩
      rwa [answers, received, List.filterMap_nil, List.append_nil]
    | ok datagram =>
      obtain ⟨data, source⟩ := datagram
      cases hparse : Header.parse data with
      | error e =>
        obtain ⟨found', reported', now', unread, hlisten, hstands, hends⟩ := ih h
        refine ⟨found', reported', now', unread, ?_, ?_, hends.cons _⟩
        · rw [listen_of_parse_error hparse, hlisten]
        · have hnone : answer? (data, source) = none := by rw [answer?, hparse]
          rwa [answers, received, List.filterMap_cons_none hnone]
      | ok header =>
        have hanswers : devices ++ answers (.ok (data, source) :: rest) =
            devices ++ [.ofHeader source header] ++ answers rest := by
          have hsome : answer? (data, source) = some (.ofHeader source header) := by
            rw [answer?, hparse]
            rfl
          rw [answers, received, List.filterMap_cons_some hsome, List.append_cons]
          rfl
        rw [hanswers]
        by_cases hseen : now.contains source.ip = true
        · obtain ⟨found', reported', now', unread, hlisten, hstands, hends⟩ :=
            ih (h.again (.ofHeader source header) hseen)
          refine ⟨found', reported', now', unread, ?_, hstands, hends.cons _⟩
          rw [listen_of_contains hparse hseen, hlisten]
        · obtain ⟨found', reported', now', unread, hlisten, hstands, hends⟩ :=
            ih (h.first (.ofHeader source header) hseen)
          refine ⟨found', reported', now', unread, ?_, hstands, hends.cons _⟩
          rw [listen_of_not_contains hparse hseen, hlisten]

/-! ## The whole scan -/

/-- Sending to everyone is sending three times, as long as it succeeds. -/
theorem sendAll_eq (send : Nat → Except TransportError Unit) :
    sendAll send = (send 0).bind fun _ => (send 1).bind fun _ => (send 2).bind fun _ => .ok () := rfl

/-- Sending to everyone succeeds if each of the three repetitions does. -/
theorem sendAll_eq_ok {send : Nat → Except TransportError Unit} (h : ∀ i < 3, send i = .ok ()) :
    sendAll send = .ok () := by
  rw [sendAll_eq, h 0 (by omega), h 1 (by omega), h 2 (by omega)]
  rfl

/-- Sending to everyone ends with the first error among the three repetitions. -/
theorem sendAll_eq_error {send : Nat → Except TransportError Unit} {i : Nat} {e : TransportError}
    (hi : i < 3) (h : send i = .error e) (hearlier : ∀ j < i, send j = .ok ()) :
    sendAll send = .error e := by
  rw [sendAll_eq]
  obtain rfl | rfl | rfl : i = 0 ∨ i = 1 ∨ i = 2 := by omega
  · rw [h]
    rfl
  · rw [hearlier 0 (by omega), h]
    rfl
  · rw [hearlier 0 (by omega), hearlier 1 (by omega), h]
    rfl

/-- A scan that can be opened and asks everyone three times reads what it receives up to the first
error, and succeeds: it reports the devices whose host answered for the first time, in the order of
their answers, gives their number, and adds them to the set behind the devices from before. A scan that
cannot be opened or cannot ask gives the first error, receives nothing and leaves the set as it was. -/
theorem broadcast_reports_newcomers (s : Scanner) (w : Window) (seen : DiscoverySet)
    (hseen : seen.Built) :
    (w.bind = .ok () → (∀ i < 3, w.send i = .ok ()) →
      ∃ now unread,
        s.broadcastWith w seen =
          ⟨.ok (newcomers seen (answers w.receptions)).length,
            newcomers seen (answers w.receptions), now, unread⟩ ∧
        now.toList = seen.toList ++ newcomers seen (answers w.receptions) ∧
        now.size = seen.size + (newcomers seen (answers w.receptions)).length ∧
        now.Built ∧ EndsBefore w.receptions unread ∧
        s.broadcast w seen = (.ok (newcomers seen (answers w.receptions)), now)) ∧
      ∀ e, w.bind = .error e ∨
          (w.bind = .ok () ∧ ∃ i < 3, w.send i = .error e ∧ ∀ j < i, w.send j = .ok ()) →
        s.broadcastWith w seen = ⟨.error (.transport e), [], seen, w.receptions⟩ ∧
          s.broadcast w seen = (.error (.transport e), seen) := by
  refine ⟨?_, ?_⟩
  · intro hbind hsend
    have hnone : newcomers seen [] = [] := rfl
    have hstart : StandsBehind seen [] 0 [] seen :=
      ⟨by rw [hnone]; rfl, hnone.symm, by rw [hnone, List.append_nil], hseen⟩
    obtain ⟨found, reported, now, unread, hlisten, hstands, hends⟩ :=
      exists_listen_eq hstart w.receptions
    rw [List.nil_append] at hstands
    have hscan : s.broadcastWith w seen =
        ⟨.ok (newcomers seen (answers w.receptions)).length,
          newcomers seen (answers w.receptions), now, unread⟩ := by
      rw [broadcastWith, hbind]
      dsimp only
      rw [sendAll_eq_ok hsend]
      dsimp only
      rw [hlisten, hstands.found_eq, hstands.reported_eq]
    refine ⟨now, unread, hscan, hstands.toList_eq, ?_, hstands.built, hends, ?_⟩
    · have hlength := congrArg List.length hstands.toList_eq
      rwa [List.length_append] at hlength
    · rw [broadcast, hscan]
      rfl
  · intro e he
    have hscan : s.broadcastWith w seen = ⟨.error (.transport e), [], seen, w.receptions⟩ := by
      obtain hbind | ⟨hbind, i, hi, herror, hearlier⟩ := he
      · rw [broadcastWith, hbind]
      · rw [broadcastWith, hbind]
        dsimp only
        rw [sendAll_eq_error hi herror hearlier]
    refine ⟨hscan, ?_⟩
    rw [broadcast, hscan]
    rfl

/-- The answer of a device with an id at a host and a port. -/
def greetingFrom (host : UInt8) (port : UInt16) (id : UInt32) : Octets × SocketAddress :=
  (Header.toOctets ⟨32, 0, id, 7, Block.fill 0xff⟩, .v4 ⟨10, 0, 0, host⟩ port)

/-- A device with an id that answered from a host and a port. -/
def deviceAt (host : UInt8) (port : UInt16) (id : UInt32) : Discovered :=
  ⟨.v4 ⟨10, 0, 0, host⟩ port, id, 7, Block.fill 0xff⟩

/-- Two answers of one host with a datagram between them that has no header, one of a host that was seen
before the scan, one of a new host, and one behind an error. -/
def mixedAnswers : Window where
  bind := .ok ()
  send _ := .ok ()
  receptions :=
    [.ok (greetingFrom 1 54321 11), .ok ([0x21], .v4 ⟨10, 0, 0, 4⟩ 1), .ok (greetingFrom 1 1 12),
      .ok (greetingFrom 2 54321 13), .ok (greetingFrom 3 54321 14), .error .emptyDatagram,
      .ok (greetingFrom 4 54321 15)]

/-- Of these the first host's first answer and the new host are reported, behind the device from
before. -/
theorem broadcast_reports_two_newcomers :
    (DiscoverySet.empty.insert (deviceAt 2 1 10)).2.Built ∧
      ∃ now, Scanner.default.broadcast mixedAnswers (DiscoverySet.empty.insert (deviceAt 2 1 10)).2 =
          (.ok [deviceAt 1 54321 11, deviceAt 3 54321 14], now) ∧
        now.toList = [deviceAt 2 1 10, deviceAt 1 54321 11, deviceAt 3 54321 14] ∧
        EndsBefore mixedAnswers.receptions [.ok (greetingFrom 4 54321 15)] := by
  have hbuilt : (DiscoverySet.empty.insert (deviceAt 2 1 10)).2.Built := .insert _ _ .empty
  have hnew : newcomers (DiscoverySet.empty.insert (deviceAt 2 1 10)).2
      (answers mixedAnswers.receptions) = [deviceAt 1 54321 11, deviceAt 3 54321 14] := by decide
  obtain ⟨now, unread, -, hlist, -, -, -, hbroadcast⟩ :=
    (broadcast_reports_newcomers Scanner.default mixedAnswers _ hbuilt).1 rfl (fun _ _ => rfl)
  rw [hnew] at hlist hbroadcast
  exact ⟨hbuilt, now, hbroadcast, hlist, Or.inl ⟨.emptyDatagram, rfl⟩⟩

end Appliance.Scanner
