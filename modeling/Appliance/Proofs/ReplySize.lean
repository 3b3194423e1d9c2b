import Appliance.Proofs.FrameRoundTrip
import Appliance.Proofs.FrameTampering
import Appliance.Proofs.ReplyJudgement
import Appliance.Udp.Connected

/-!
# Replies and the buffer of a socket

Frames and sockets have limits of their own: a frame may be as long as sixteen bits can declare, and
a socket stores as much of a datagram as its buffer holds. A frame that fits the buffer is received as
it is. Of a longer one only the first octets are received, which still declare the length of the whole,
so that it is refused for its length whatever it says, where the frame itself would never be.
-/

namespace Appliance

namespace Frame

/-- A frame that was made is a header around some octets enciphered. -/
theorem exists_wrap_of_encode {α : Type} [Payload α] {payload : α} {deviceId timestamp : UInt32}
    {token : Token} {frame : Octets} (h : encode payload deviceId timestamp token = .ok frame) :
    ∃ plain, Header.size + (token.encrypt plain).length ≤ maxSize ∧
      frame = wrap 0 deviceId timestamp token (token.encrypt plain) := by
  unfold encode at h
  cases hjson : Payload.json payload with
  | error e =>
    rw [hjson] at h
    cases h
  | ok v =>
    rw [hjson] at h
    dsimp only at h
    split at h
    · cases h
    · rename_i hsize
      exact ⟨v.octets, Nat.not_lt.mp hsize, (Except.ok.inj h).symm⟩

/-- Octets that a header starts are never refused for their length. -/
theorem decode_ne_lengthMismatch {h : Header} {octets rest : Octets} (hstarts : h.Starts octets rest)
    (token : Token) (declared received : Nat) :
    decode octets token ≠ .error (.lengthMismatch declared received) := by
  intro hdecode
  have hfault := ((decode_eq_error_iff octets token _).mp hdecode).2.1
  have hthree : 3 ≤ 2 := three_le_precedence_of_starts hstarts token _ hfault
  omega

/-- A frame that was made has a header and a body. -/
theorem exists_starts_of_encode {α : Type} [Payload α] {payload : α} {deviceId timestamp : UInt32}
    {token : Token} {frame : Octets} (h : encode payload deviceId timestamp token = .ok frame) :
    (∃ (header : Header) (rest : Octets), header.Starts frame rest) ∧ Header.size < frame.length := by
  obtain ⟨plain, hsize, rfl⟩ := exists_wrap_of_encode h
  have hstarts := starts_wrap 0 deviceId timestamp token _ hsize
  refine ⟨⟨_, _, hstarts⟩, ?_⟩
  rw [hstarts.length_octets, Token.length_encrypt]
  omega

/-- A frame that was made has octets. -/
theorem ne_nil_of_encode {α : Type} [Payload α] {payload : α} {deviceId timestamp : UInt32}
    {token : Token} {frame : Octets} (h : encode payload deviceId timestamp token = .ok frame) :
    frame ≠ [] :=
  List.ne_nil_of_length_pos (Nat.zero_lt_of_lt (exists_starts_of_encode h).2)

/-- Of a frame that was made a part with a whole header is read like the frame exactly if it is all of
it, and is refused for its length otherwise, whatever the token. -/
theorem decode_take_of_encode {α : Type} [Payload α] {payload : α} {deviceId timestamp : UInt32}
    {token : Token} {frame : Octets} (h : encode payload deviceId timestamp token = .ok frame)
    {n : Nat} (hn : 32 ≤ n) :
    (decode (frame.take n) token = decode frame token ↔ frame.length ≤ n) ∧
      (n < frame.length → ∀ other,
        decode (frame.take n) other = .error (.lengthMismatch frame.length n)) := by
  obtain ⟨⟨header, rest, hstarts⟩, hlong⟩ := exists_starts_of_encode h
  have hrefused (hcut : n < frame.length) (other : Token) :
      decode (frame.take n) other = .error (.lengthMismatch frame.length n) := by
    have hlength : (frame.take n).length = n := by
      rw [List.length_take]
      omega
    have hne : frame.take n ≠ frame := by
      intro hsame
      rw [hsame] at hlength
      omega
    have hshort := decode_of_cut_or_continued hlong hstarts hne (Or.inl (List.take_prefix n frame))
      other
    rwa [hlength, if_neg (Nat.not_lt.mpr hn)] at hshort
  refine ⟨⟨?_, ?_⟩, hrefused⟩
  · intro hsame
    by_contra hcut
    rw [hrefused (Nat.not_le.mp hcut)] at hsame
    exact decode_ne_lengthMismatch hstarts token _ _ hsame.symm
  · intro hfits
    rw [List.take_of_length_le hfits]

end Frame

namespace UdpEnd

variable {τ : Type}

/-- A datagram with octets that the host hands over is received as far as it fits the buffer. -/
theorem receive_answer_of_datagram (h : Host τ) (timeout : Millis) (u : UdpEnd τ) {socket : SocketId}
    {reply : Octets} (hsocket : u.socket = some socket) (hne : reply ≠ [])
    (harrives : (h.receive socket timeout u.host).1 = .datagram reply ()) :
    (u.receive h timeout).answer = .ok (reply.take receiveBufferSize) := by
  rw [receive, hsocket]
  dsimp only
  rw [harrives, Arrival.received_datagram _ _ hne]
  rfl

/-- A connection can be opened and a request be sent over it, and what the host then hands over is a
datagram. -/
structure Delivers (h : Host τ) (request : Octets) (timeout : Millis) (u : UdpEnd τ)
    (reply : Octets) : Prop where
  opened : (u.connect h).answer = .ok ()
  sent : ((u.connect h).state.send h request).answer = .ok ()
  arrives : ∃ socket, ((u.connect h).state.send h request).state.socket = some socket ∧
    (h.receive socket timeout ((u.connect h).state.send h request).state.host).1 =
      .datagram reply ()

/-- An exchange gives the datagram that is delivered in it as far as it fits the buffer. -/
theorem exchange_of_delivers {h : Host τ} {request reply : Octets} {timeout : Millis}
    {l : Line (UdpEnd τ)} (hdelivers : Delivers h request timeout l.state reply) (hne : reply ≠ []) :
    ((transport h).exchange request timeout l).1 = .ok (reply.take receiveBufferSize) := by
  obtain ⟨hopened, hsent, socket, hsocket, harrives⟩ := hdelivers
  have hreceived := receive_answer_of_datagram h timeout _ hsocket hne harrives
  rw [Transport.exchange]
  dsimp only [transport]
  rw [hopened]
  dsimp only [Transport.ask]
  rw [Line.state_after, Line.state_after, hsent]
  exact hreceived

/-- Of a frame that was made a socket gives octets that are read like the frame under its token exactly
if the frame fits the buffer. A longer frame is refused for its length under any token, as if it had
the size of the buffer. -/
theorem reply_read_iff_fits {α : Type} [Payload α] (payload : α) (deviceId timestamp : UInt32)
    (token : Token) (frame : Octets)
    (hframe : Frame.encode payload deviceId timestamp token = .ok frame) :
    ∃ data,
      (∀ {τ : Type} (h : Host τ) (timeout : Millis) (u : UdpEnd τ) (socket : SocketId),
        u.socket = some socket → (h.receive socket timeout u.host).1 = .datagram frame () →
          (u.receive h timeout).answer = .ok data) ∧
      (∀ {τ : Type} (h : Host τ) (request : Octets) (timeout : Millis) (l : Line (UdpEnd τ)),
        Delivers h request timeout l.state frame →
          ((transport h).exchange request timeout l).1 = .ok data) ∧
      (Frame.decode data token = Frame.decode frame token ↔ frame.length ≤ receiveBufferSize) ∧
      (receiveBufferSize < frame.length → ∀ other,
        Frame.decode data other = .error (.lengthMismatch frame.length receiveBufferSize)) := by
  have hne := Frame.ne_nil_of_encode hframe
  obtain ⟨hread, hcut⟩ := Frame.decode_take_of_encode hframe
    (show 32 ≤ receiveBufferSize by decide)
  refine ⟨frame.take receiveBufferSize, ?_, ?_, hread, hcut⟩
  · intro τ h timeout u socket hsocket harrives
    exact receive_answer_of_datagram h timeout u hsocket hne harrives
  · intro τ h request timeout l hdelivers
    exact exchange_of_delivers hdelivers hne

/-- A host that hands the same datagram over whenever it is asked for one. -/
def handing (reply : Octets) : Host Unit where
  resolve _ host := (.ok [.v4 ⟨10, 0, 0, 1⟩ 54321], host)
  bind _ host := (.ok 0, host)
  connect _ _ host := (.ok (), host)
  send _ _ host := (.ok (), host)
  receive _ _ host := (.datagram reply (), host)
  close _ host := host

/-- An end at such a host gets the datagram in every exchange. -/
theorem delivers_handing (reply request : Octets) (timeout : Millis) :
    Delivers (handing reply) request timeout (.new "lamp" 54321 ()) reply :=
  ⟨rfl, rfl, 0, rfl, rfl⟩

/-- The payload of 900 nulls has a frame that does not fit the buffer. -/
theorem exists_encode_nulls :
    ∃ frame, Frame.encode (Json.array (List.replicate 900 .null)) 291 7 Token.zero = .ok frame ∧
      frame.length = 4544 := by
  have hlength : (Json.array (List.replicate 900 .null)).octets.length = 4501 := by decide +kernel
  refine ⟨_, Frame.encode_of_length_le _ _ 291 7 Token.zero rfl ?_, ?_⟩
  · rw [hlength]
    decide
  · have hsize : Header.size + (Token.zero.encrypt
        (Json.array (List.replicate 900 .null)).octets).length = 4544 := by
      rw [Token.length_encrypt, hlength]
      rfl
    rw [(Frame.starts_wrap 0 291 7 Token.zero _ (by rw [hsize]; decide)).length_octets, hsize]

/-- A short frame is received and read in an exchange, and one of 4544 octets is refused. -/
theorem reply_read_iff_fits_both :
    (Frame.encode (Json.array [.int 1]) 291 7 Token.zero = .ok Frame.sealedReply ∧
      ∃ data, ((transport (handing Frame.sealedReply)).exchange Frame.handshake 5000
          ⟨.new "lamp" 54321 (), []⟩).1 = .ok data ∧
        Frame.decode data Token.zero = Frame.decode Frame.sealedReply Token.zero) ∧
      ∃ frame data, Frame.encode (Json.array (List.replicate 900 .null)) 291 7 Token.zero = .ok frame ∧
        ((transport (handing frame)).exchange Frame.handshake 5000
          ⟨.new "lamp" 54321 (), []⟩).1 = .ok data ∧
        Frame.decode data Token.zero = .error (.lengthMismatch 4544 4096) := by
  constructor
  · have hframe : Frame.encode (Json.array [.int 1]) 291 7 Token.zero = .ok Frame.sealedReply := by
      decide +kernel
    obtain ⟨data, -, hexchange, hread, -⟩ := reply_read_iff_fits _ 291 7 Token.zero _ hframe
    exact ⟨hframe, data, hexchange _ _ _ _ (delivers_handing _ _ _), hread.mpr (by decide)⟩
  · obtain ⟨frame, hframe, hlength⟩ := exists_encode_nulls
    obtain ⟨data, -, hexchange, -, hcut⟩ := reply_read_iff_fits _ 291 7 Token.zero _ hframe
    refine ⟨frame, data, hframe, hexchange _ _ _ _ (delivers_handing _ _ _), ?_⟩
    rw [hcut (by rw [hlength]; decide), hlength]
    rfl

/-- Not every frame that was made and fits a datagram is read as it was made. -/
theorem long_reply_cut :
    ¬ ∀ (payload : Json) (deviceId timestamp : UInt32) (token : Token) (frame : Octets),
        Frame.encode payload deviceId timestamp token = .ok frame → frame.length ≤ 65504 →
          ∀ (h : Host Unit) (timeout : Millis) (u : UdpEnd Unit) (socket : SocketId),
            u.socket = some socket → (h.receive socket timeout u.host).1 = .datagram frame () →
              ∃ data, (u.receive h timeout).answer = .ok data ∧
                Frame.decode data token = Frame.decode frame token := by
  intro hall
  obtain ⟨frame, hframe, hlength⟩ := exists_encode_nulls
  obtain ⟨data, hanswer, hread⟩ := hall _ 291 7 Token.zero frame hframe (by omega)
    (handing frame) 5000 ⟨"lamp", 54321, some 0, none, ()⟩ 0 rfl rfl
  have hreceived := receive_answer_of_datagram (handing frame) 5000
    ⟨"lamp", 54321, some 0, none, ()⟩ rfl (Frame.ne_nil_of_encode hframe) rfl
  obtain rfl : data = frame.take receiveBufferSize := by
    rw [hanswer] at hreceived
    exact Except.ok.inj hreceived
  have hfits := (Frame.decode_take_of_encode hframe
    (show 32 ≤ receiveBufferSize by decide)).1.mp hread
  have hsmall : ¬ 4544 ≤ receiveBufferSize := by decide
  omega

end UdpEnd

end Appliance
