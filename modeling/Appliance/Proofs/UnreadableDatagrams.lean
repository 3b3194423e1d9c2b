import Appliance.Proofs.FrameTampering
import Appliance.Proofs.ScanReport

/-!
# Datagrams that a scan passes over

Between the datagrams that arrive and a scan there is the socket, which stores a datagram as far as it
fits the buffer and makes an error of one without octets. A scan passes over what it cannot read, but
ends at an error. So the datagrams that never make a difference, wherever they are inserted, are
exactly those that have octets and whose stored octets have no header in order.

For a datagram that fits the buffer and has octets this is the same as having no header in order
itself. It is not for one without octets, behind which nothing is read any more, nor for a longer one,
which stands for its first octets.
-/

namespace Appliance

/-! ## Sequences with insertions -/

/-- A sequence is another one with elements of some kind inserted, anywhere and any number of them. -/
inductive Interspersed {α : Type} (kind : α → Prop) : List α → List α → Prop
  | nil : Interspersed kind [] []
  | kept (x : α) {few many : List α} (h : Interspersed kind few many) :
      Interspersed kind (x :: few) (x :: many)
  | inserted (x : α) {few many : List α} (hx : kind x) (h : Interspersed kind few many) :
      Interspersed kind few (x :: many)

namespace Interspersed

variable {α : Type} {kind : α → Prop}

/-- Nothing has to be inserted. -/
theorem refl (xs : List α) : Interspersed kind xs xs := by
  induction xs with
  | nil => exact .nil
  | cons x xs ih => exact .kept x ih

/-- One element may be inserted at any place. -/
theorem single (before after : List α) (x : α) (hx : kind x) :
    Interspersed kind (before ++ after) (before ++ x :: after) := by
  induction before with
  | nil => exact .inserted x hx (.refl after)
  | cons y before ih => exact .kept y ih

end Interspersed

/-! ## Arriving datagrams -/

/-- What comes of a scan: its answer, the devices reported, and the set after it. -/
def Scan.outcome (scan : Scan) : Except DeviceError Nat × List Discovered × DiscoverySet :=
  (scan.answer, scan.reported, scan.seen)

/-- The window of a scan without errors of its socket, in which some datagrams arrive. -/
def Window.arriving (datagrams : List (Octets × SocketAddress)) : Window where
  bind := .ok ()
  send _ := .ok ()
  receptions := datagrams.map fun d => (Arrival.datagram d.1 d.2).received

/-- A header starts as many octets as it declares, if what follows it are enough. -/
theorem Header.starts_take (h : Header) (body : Octets) (hsize : size ≤ h.length.toNat)
    (hbody : h.length.toNat ≤ size + body.length) :
    h.Starts ((h.toOctets ++ body).take h.length.toNat) (body.take (h.length.toNat - size)) where
  octets_eq := by
    rw [List.take_append, length_toOctets, List.take_of_length_le (by rwa [length_toOctets])]
  length_eq := by
    rw [List.length_take]
    omega

namespace Scanner

/-! ## What is passed over -/

/-- A datagram has octets, and those that are stored of it have no header in order. -/
def PassedOver (data : Octets) : Prop :=
  data ≠ [] ∧ ∃ e, Header.parse (data.take receiveBufferSize) = .error e

/-- A datagram without a header in order is passed over exactly if it has octets and, where it does not
fit the buffer, what is stored of it has no header in order either. -/
theorem passedOver_iff_of_parse_error {data : Octets} {e : ProtocolError}
    (h : Header.parse data = .error e) :
    PassedOver data ↔ data ≠ [] ∧ (receiveBufferSize < data.length →
      ∃ e', Header.parse (data.take receiveBufferSize) = .error e') := by
  refine and_congr_right fun _ => ⟨fun hrefused _ => hrefused, fun hcut => ?_⟩
  by_cases hfits : data.length ≤ receiveBufferSize
  · exact ⟨e, by rw [List.take_of_length_le hfits, h]⟩
  · exact hcut (by omega)

/-- A datagram that declares as many octets as are stored, but has more, has no header in order, while
what is stored of it has one. -/
theorem parse_of_overlong (h : Header) (body : Octets) (hdeclared : h.length.toNat = receiveBufferSize)
    (hlong : receiveBufferSize < (h.toOctets ++ body).length) :
    Header.parse (h.toOctets ++ body) =
        .error (.lengthMismatch receiveBufferSize (h.toOctets ++ body).length) ∧
      Header.parse ((h.toOctets ++ body).take receiveBufferSize) = .ok h := by
  have hsize : 32 ≤ receiveBufferSize := by decide
  have hlength : (h.toOctets ++ body).length = Header.size + body.length := by
    rw [List.length_append, Header.length_toOctets]
  have hstarts := h.starts_take body (by rw [hdeclared]; exact hsize) (by omega)
  rw [hdeclared] at hstarts
  refine ⟨?_, (Header.parse_eq_ok_iff _ h).mpr ⟨_, hstarts⟩⟩
  have hstored : ((h.toOctets ++ body).take receiveBufferSize).length = receiveBufferSize := by
    rw [List.length_take]
    omega
  have hfour : (h.toOctets ++ body).take 4 =
      ((h.toOctets ++ body).take receiveBufferSize).take 4 := by
    rw [List.take_take]
    rfl
  obtain ⟨header, hparse⟩ := Header.exists_parse_of_take_eq hstarts (by omega) hfour
  rwa [hstored, if_neg (by omega)] at hparse

/-! ## Two scans side by side -/

/-- One more reception in front keeps two scans the same. -/
theorem outcome_listen_cons_congr (reception : Reception) {few many : List Reception}
    (h : ∀ found reported now,
      (listen found reported now many).outcome = (listen found reported now few).outcome)
    (found : Nat) (reported : List Discovered) (now : DiscoverySet) :
    (listen found reported now (reception :: many)).outcome =
      (listen found reported now (reception :: few)).outcome := by
  cases reception with
  | error e => rfl
  | ok datagram =>
    obtain ⟨data, source⟩ := datagram
    cases hparse : Header.parse data with
    | error e =>
      rw [listen_of_parse_error hparse, listen_of_parse_error hparse, h]
    | ok header =>
      by_cases hseen : now.contains source.ip = true
      · rw [listen_of_contains hparse hseen, listen_of_contains hparse hseen, h]
      · rw [listen_of_not_contains hparse hseen, listen_of_not_contains hparse hseen, h]

/-- Inserted datagrams that are passed over keep reading as it is, from any place on. -/
theorem outcome_listen_of_interspersed {few many : List (Octets × SocketAddress)}
    (h : Interspersed (fun d => PassedOver d.1) few many) (found : Nat) (reported : List Discovered)
    (now : DiscoverySet) :
    (listen found reported now (Window.arriving many).receptions).outcome =
      (listen found reported now (Window.arriving few).receptions).outcome := by
  induction h generalizing found reported now with
  | nil => rfl
  | kept d _ ih => exact outcome_listen_cons_congr _ ih found reported now
  | @inserted d few many hd _ ih =>
    obtain ⟨hne, e, hparse⟩ := hd
    have hfirst : (Window.arriving (d :: many)).receptions =
        .ok (d.1.take receiveBufferSize, d.2) :: (Window.arriving many).receptions := by
      rw [← Arrival.received_datagram _ _ hne]
      rfl
    rw [hfirst, listen_of_parse_error hparse, ih]

/-- Behind a datagram without octets nothing is read any more. -/
theorem outcome_listen_append_empty (before after : List (Octets × SocketAddress))
    (source : SocketAddress) (found : Nat) (reported : List Discovered) (now : DiscoverySet) :
    (listen found reported now
        (Window.arriving (before ++ ([], source) :: after)).receptions).outcome =
      (listen found reported now (Window.arriving before).receptions).outcome := by
  induction before generalizing found reported now with
  | nil => rfl
  | cons d before ih => exact outcome_listen_cons_congr _ ih found reported now

/-- A datagram arrives like the octets of it that fit the buffer. -/
theorem arriving_append_take (before after : List (Octets × SocketAddress)) (data : Octets)
    (source : SocketAddress) :
    Window.arriving (before ++ (data.take receiveBufferSize, source) :: after) =
      Window.arriving (before ++ (data, source) :: after) := by
  rw [Window.arriving, Window.arriving, List.map_append, List.map_append, List.map_cons, List.map_cons,
    Arrival.received_datagram_take]

/-! ## Which datagrams make a difference -/

/-- A datagram whose stored octets have a header in order is reported where nothing else arrives. -/
theorem reported_of_parse (s : Scanner) {data : Octets} {header : Header}
    (h : Header.parse (data.take receiveBufferSize) = .ok header) (source : SocketAddress) :
    (s.broadcastWith (Window.arriving [(data, source)]) .empty).reported =
      [.ofHeader source header] := by
  have hne : data ≠ [] := by
    rintro rfl
    cases h
  have hnew : ¬ DiscoverySet.empty.contains source.ip = true := Bool.false_ne_true
  have hscan : s.broadcastWith (Window.arriving [(data, source)]) .empty =
      listen 0 [] .empty [(Arrival.datagram data source).received] := rfl
  rw [hscan, Arrival.received_datagram _ _ hne, listen_of_not_contains h hnew]
  rfl

/-- An answer of a device that tells nothing of itself. -/
def bareAnswer : Octets × SocketAddress := (Frame.handshake, .v4 ⟨10, 0, 0, 1⟩ 54321)

/-- A datagram without octets in front of an answer makes a difference. -/
theorem outcome_ne_of_empty (s : Scanner) (source : SocketAddress) :
    (s.broadcastWith (Window.arriving [([], source), bareAnswer]) .empty).outcome ≠
      (s.broadcastWith (Window.arriving [bareAnswer]) .empty).outcome := by
  intro hsame
  have hparse : Header.parse (bareAnswer.1.take receiveBufferSize) =
      .ok ⟨32, 0xffffffff, 0xffffffff, 0xffffffff, Block.fill 0xff⟩ := by decide
  have hnone : [] = (s.broadcastWith (Window.arriving [bareAnswer]) .empty).reported :=
    congrArg (·.2.1) hsame
  rw [reported_of_parse s hparse bareAnswer.2] at hnone
  cases hnone

/-- A datagram whose stored octets have a header in order makes a difference where nothing else
arrives. -/
theorem outcome_ne_of_parse (s : Scanner) {data : Octets} {header : Header}
    (h : Header.parse (data.take receiveBufferSize) = .ok header) (source : SocketAddress) :
    (s.broadcastWith (Window.arriving [(data, source)]) .empty).outcome ≠
      (s.broadcastWith (Window.arriving []) .empty).outcome := by
  intro hsame
  have hnone : (s.broadcastWith (Window.arriving [(data, source)]) .empty).reported = [] :=
    congrArg (·.2.1) hsame
  rw [reported_of_parse s h source] at hnone
  cases hnone

/-- A datagram that makes no difference to a scan without devices from before, wherever it is
inserted, is passed over. -/
theorem passedOver_of_outcome_eq (s : Scanner) (data : Octets)
    (h : ∀ before after,
      (s.broadcastWith (Window.arriving (before ++ (data, bareAnswer.2) :: after)) .empty).outcome =
        (s.broadcastWith (Window.arriving (before ++ after)) .empty).outcome) :
    PassedOver data := by
  refine ⟨?_, ?_⟩
  · rintro rfl
    exact outcome_ne_of_empty s bareAnswer.2 (h [] [bareAnswer])
  · cases hparse : Header.parse (data.take receiveBufferSize) with
    | error e => exact ⟨e, rfl⟩
    | ok header => exact absurd (h [] []) (outcome_ne_of_parse s hparse bareAnswer.2)

/-- Inserting datagrams that are passed over, any number of them and anywhere, changes neither the
answer of a scan nor the devices reported nor the set after it, and no other datagram can always be
inserted so. Of the datagrams without a header in order those are passed over that have octets and,
where they do not fit the buffer, are stored without one; one that declares the size of the buffer and
is longer is not. A datagram without octets ends the scan, and one that does not fit the buffer counts
as what is stored of it. -/
theorem broadcast_unchanged_iff (s : Scanner) :
    (∀ seen few many, Interspersed (fun d => PassedOver d.1) few many →
        (s.broadcastWith (Window.arriving many) seen).outcome =
          (s.broadcastWith (Window.arriving few) seen).outcome) ∧
      (∀ data, (∀ seen source before after,
          (s.broadcastWith (Window.arriving (before ++ (data, source) :: after)) seen).outcome =
            (s.broadcastWith (Window.arriving (before ++ after)) seen).outcome) ↔ PassedOver data) ∧
      (∀ data e, Header.parse data = .error e →
        (PassedOver data ↔ data ≠ [] ∧ (receiveBufferSize < data.length →
          ∃ e', Header.parse (data.take receiveBufferSize) = .error e'))) ∧
      (∀ (h : Header) body, h.length.toNat = receiveBufferSize →
        receiveBufferSize < (h.toOctets ++ body).length →
          (∃ e, Header.parse (h.toOctets ++ body) = .error e) ∧ ¬ PassedOver (h.toOctets ++ body)) ∧
      (∀ seen source before after,
        (s.broadcastWith (Window.arriving (before ++ ([], source) :: after)) seen).outcome =
          (s.broadcastWith (Window.arriving before) seen).outcome) ∧
      ∀ seen data source before after,
        s.broadcastWith (Window.arriving (before ++ (data, source) :: after)) seen =
          s.broadcastWith
            (Window.arriving (before ++ (data.take receiveBufferSize, source) :: after)) seen := by
  refine ⟨?_, ?_, ?_, ?_, ?_, ?_⟩
  · intro seen few many h
    exact outcome_listen_of_interspersed h 0 [] seen
  · intro data
    constructor
    · intro hsame
      exact passedOver_of_outcome_eq s data (hsame .empty bareAnswer.2)
    · intro hdata seen source before after
      exact outcome_listen_of_interspersed (.single before after (data, source) hdata) 0 [] seen
  · intro data e h
    exact passedOver_iff_of_parse_error h
  · intro h body hdeclared hlong
    obtain ⟨hrefused, hstored⟩ := parse_of_overlong h body hdeclared hlong
    refine ⟨⟨_, hrefused⟩, ?_⟩
    rintro ⟨-, e, hnone⟩
    rw [hstored] at hnone
    cases hnone
  · intro seen source before after
    exact outcome_listen_append_empty before after source 0 [] seen
  · intro seen data source before after
    rw [arriving_append_take]

/-- Datagrams without a header in order cannot be inserted as one likes: one without octets keeps a
device from being found. -/
theorem scan_ended_by_empty_datagram :
    ¬ ∀ (s : Scanner) (seen : DiscoverySet) (few many : List (Octets × SocketAddress)),
        Interspersed (fun d => ∃ e, Header.parse d.1 = .error e) few many →
          (s.broadcastWith (Window.arriving many) seen).outcome =
            (s.broadcastWith (Window.arriving few) seen).outcome := by
  intro hall
  have hrefused : Header.parse [] = .error (.frameTooShort 32 0) := rfl
  exact outcome_ne_of_empty .default bareAnswer.2
    (hall .default .empty [bareAnswer] [([], bareAnswer.2), bareAnswer]
      (.inserted _ ⟨_, hrefused⟩ (.refl _)))

end Scanner

end Appliance
