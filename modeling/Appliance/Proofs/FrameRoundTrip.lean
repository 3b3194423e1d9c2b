import Appliance.Proofs.FrameLayout
import Appliance.Proofs.JsonText
import Appliance.Request

/-!
# Frames read back

A frame made of a payload is read back with the header it was made with and the payload's value.
What bounds a payload is the sixteen bits of the length: its compact text fills a whole number of
blocks with at least one octet to spare, so that 65487 octets are the most that fit.

The payload's numbers are integers of 64 bits, so that no double has to be read back, and it is
nested no deeper than a reader of texts goes. What is read back is sorted: a request's members come
back in the order of their keys.
-/

namespace Appliance

/-- A body is read back from the compact text of its value. -/
theorem Body.parse_octets (v : Json) (hv : v.Integral) (hdepth : v.depth ≤ Json.maxDepth) :
    parse v.octets = .ok v.sorted := by
  rw [parse, read, Json.parse_octets v hv hdepth]
  rfl

namespace Frame

/-- The greatest number of octets that the text of a payload may have. -/
def maxText : Nat := 65487

section

variable (unknown deviceId timestamp : UInt32) (token : Token) (cipher : Octets)

/-- A header declares the length of its frame if sixteen bits can. -/
theorem toNat_length_headerOf (h : Header.size + cipher.length ≤ maxSize) :
    (headerOf unknown deviceId timestamp token cipher).length.toNat =
      Header.size + cipher.length := by
  have hlt : Header.size + cipher.length < 65536 := Nat.lt_succ_of_le h
  rw [headerOf, UInt16.toNat_ofNat', Nat.mod_eq_of_lt hlt]

/-- A header starts the frame that is made with it. -/
theorem starts_wrap (h : Header.size + cipher.length ≤ maxSize) :
    (headerOf unknown deviceId timestamp token cipher).Starts
      (wrap unknown deviceId timestamp token cipher) cipher :=
  ⟨rfl, toNat_length_headerOf unknown deviceId timestamp token cipher h⟩

/-- The checksum of a header is the one that its frame has to carry. -/
theorem checksum_headerOf :
    checksum (headerOf unknown deviceId timestamp token cipher).fields token cipher =
      (headerOf unknown deviceId timestamp token cipher).checksum := rfl

end

/-- A frame around a text enciphered is read as what the text is read as. -/
theorem decode_wrap_encrypt (unknown deviceId timestamp : UInt32) (token : Token)
    (plain : Octets) (hsize : Header.size + (token.encrypt plain).length ≤ maxSize) :
    decode (wrap unknown deviceId timestamp token (token.encrypt plain)) token =
      ((Body.parse plain).mapError .payload).map fun v =>
        ⟨headerOf unknown deviceId timestamp token (token.encrypt plain), some v⟩ := by
  have hne : token.encrypt plain ≠ [] := by
    intro hnil
    have hlength := token.length_encrypt plain
    rw [hnil, List.length_nil] at hlength
    omega
  rw [decode_of_starts _ token _ _ (starts_wrap unknown deviceId timestamp token _ hsize),
    if_neg hne, if_pos (checksum_headerOf unknown deviceId timestamp token _),
    Token.decrypt?_encrypt]
  dsimp only
  cases Body.parse plain <;> rfl

/-- A frame around a text enciphered is read as its header and the text's value. -/
theorem decode_wrap (unknown deviceId timestamp : UInt32) (token : Token) (plain : Octets)
    (v : Json) (hplain : Body.parse plain = .ok v)
    (hsize : Header.size + (token.encrypt plain).length ≤ maxSize) :
    decode (wrap unknown deviceId timestamp token (token.encrypt plain)) token =
      .ok ⟨headerOf unknown deviceId timestamp token (token.encrypt plain), some v⟩ := by
  rw [decode_wrap_encrypt unknown deviceId timestamp token plain hsize, hplain]
  rfl

/-- A frame around a text that is not read is refused for the text's error. -/
theorem decode_wrap_of_error (unknown deviceId timestamp : UInt32) (token : Token)
    (plain : Octets) (e : Json.Error) (hplain : Body.parse plain = .error e)
    (hsize : Header.size + (token.encrypt plain).length ≤ maxSize) :
    decode (wrap unknown deviceId timestamp token (token.encrypt plain)) token =
      .error (.payload e) := by
  rw [decode_wrap_encrypt unknown deviceId timestamp token plain hsize, hplain]
  rfl

/-- A text fits a frame exactly up to the greatest number of octets. -/
theorem size_le_iff (token : Token) (plain : Octets) :
    Header.size + (token.encrypt plain).length ≤ maxSize ↔ plain.length ≤ maxText := by
  rw [Token.length_encrypt, Header.size, maxSize, maxText]
  omega

section

variable {α : Type} [Payload α] (payload : α) (v : Json) (deviceId timestamp : UInt32)
  (token : Token)

/-- A payload is put into a frame if its text fits. -/
theorem encode_of_length_le (hjson : Payload.json payload = .ok v)
    (hfits : v.octets.length ≤ maxText) :
    encode payload deviceId timestamp token =
      .ok (wrap 0 deviceId timestamp token (token.encrypt v.octets)) := by
  have hsize := (size_le_iff token v.octets).mpr hfits
  rw [encode, hjson]
  dsimp only
  rw [if_neg (Nat.not_lt.mpr hsize)]

/-- A payload whose text does not fit is refused with the size that the frame would have. -/
theorem encode_of_lt_length (hjson : Payload.json payload = .ok v)
    (hlarge : maxText < v.octets.length) :
    encode payload deviceId timestamp token =
      .error (.payloadTooLarge (Header.size + 16 * (v.octets.length / 16 + 1)) maxSize) := by
  have hsize : ¬ Header.size + (token.encrypt v.octets).length ≤ maxSize :=
    fun h => absurd ((size_le_iff token v.octets).mp h) (Nat.not_le.mpr hlarge)
  rw [encode, hjson]
  dsimp only
  rw [if_pos (Nat.not_le.mp hsize), Token.length_encrypt]

/-- A payload is put into a frame exactly if its text has at most 65487 octets, and refused as too
large otherwise. The frame declares its own length, has nothing in the reserved word and around its
body a whole number of blocks, and is read back as its header and the payload's value. -/
theorem payload_round_trip (hjson : Payload.json payload = .ok v) (hv : v.Integral)
    (hdepth : v.depth ≤ 127) :
    ((∃ frame, encode payload deviceId timestamp token = .ok frame) ↔
        v.octets.length ≤ 65487) ∧
      (65487 < v.octets.length →
        encode payload deviceId timestamp token =
          .error (.payloadTooLarge (32 + 16 * (v.octets.length / 16 + 1)) 65535)) ∧
      (∀ frame, encode payload deviceId timestamp token = .ok frame →
        ∃ header, decode frame token = .ok ⟨header, some v.sorted⟩ ∧
          header.length.toNat = frame.length ∧ header.unknown = 0 ∧
          header.deviceId = deviceId ∧ header.timestamp = timestamp ∧
          ∃ blocks, 0 < blocks ∧ frame.length = 32 + 16 * blocks) ∧
      (v.Sorted → v.sorted = v) := by
  have hlarge := encode_of_lt_length payload v deviceId timestamp token hjson
  refine ⟨⟨?_, ?_⟩, hlarge, ?_, v.sorted_eq_self⟩
  · rintro ⟨frame, hframe⟩
    by_contra hlt
    rw [hlarge (Nat.not_le.mp hlt)] at hframe
    cases hframe
  · intro hfits
    exact ⟨_, encode_of_length_le payload v deviceId timestamp token hjson hfits⟩
  · intro frame hframe
    have hfits : v.octets.length ≤ maxText := by
      by_contra hlt
      rw [hlarge (Nat.not_le.mp hlt)] at hframe
      cases hframe
    have hsize := (size_le_iff token v.octets).mpr hfits
    rw [encode_of_length_le payload v deviceId timestamp token hjson hfits] at hframe
    cases hframe
    have hstarts := starts_wrap 0 deviceId timestamp token _ hsize
    refine ⟨_, decode_wrap 0 deviceId timestamp token _ _ (Body.parse_octets v hv hdepth) hsize,
      ?_, rfl, rfl, rfl, v.octets.length / 16 + 1, Nat.succ_pos _, ?_⟩
    · rw [hstarts.length_eq, hstarts.length_octets]
    · rw [hstarts.length_octets, Token.length_encrypt, Header.size]

end

/-- A request with escaped characters, nested members out of order and the least and the greatest
integer. -/
def extremeRequest : Request :=
  Request.new 7 "set\t\"é\""
    (.array [.int (-9223372036854775808), .int 18446744073709551615,
      .object [("b", .null), ("a", .array [.bool true])]])

/-- A request at the limits of integers is read back. -/
theorem payload_round_trip_extremes :
    ∃ frame header, encode extremeRequest 4294967295 0 Token.zero = .ok frame ∧
      decode frame Token.zero =
        .ok ⟨header, some (.object
          [("id", .int 7), ("method", .string "set\t\"é\""),
            ("params", .array [.int (-9223372036854775808), .int 18446744073709551615,
              .object [("a", .array [.bool true]), ("b", .null)]])])⟩ ∧
      header.deviceId = 4294967295 ∧ header.timestamp = 0 := by
  have hint : extremeRequest.toJson.Integral := by
    simp [extremeRequest, Request.toJson, Request.members, Request.baseMembers, Request.new,
      Json.without, Json.Integral, Json.IntegralMembers, Json.IntegralItems]
  obtain ⟨hencodes, -, hdecodes, -⟩ := payload_round_trip extremeRequest extremeRequest.toJson
    4294967295 0 Token.zero rfl hint (by decide)
  obtain ⟨frame, hframe⟩ := hencodes.mpr (by decide)
  obtain ⟨header, hdecode, -, -, hdevice, htime, -⟩ := hdecodes frame hframe
  refine ⟨frame, header, hframe, ?_, hdevice, htime⟩
  rw [hdecode]
  rfl

end Frame

end Appliance
