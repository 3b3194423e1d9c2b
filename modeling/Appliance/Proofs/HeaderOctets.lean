import Appliance.Proofs.FrameAcceptance

/-!
# The octets of a header

Reading and writing a header are two functions that know nothing of each other, and this is what they
agree on: which octets hold which field. From it both directions follow. What is read from the start of
a frame is written back as the same thirty-two octets, and what is written is read back, whatever body
of the declared length follows it.

Octets without a header are refused for the first of three reasons, each of which is read off the octets
alone.
-/

namespace Appliance

open Appliance.Frame (spelled)

namespace Header

/-! ## Where the fields stand -/

/-- The magic octets and the fields of a header, each spelled at its place. -/
structure LaidOut (h : Header) (octets : Octets) : Prop where
  magic : octets.take 2 = [0x21, 0x31]
  length : spelled ((octets.drop 2).take 2) = h.length.toNat
  unknown : spelled ((octets.drop 4).take 4) = h.unknown.toNat
  deviceId : spelled ((octets.drop 8).take 4) = h.deviceId.toNat
  timestamp : spelled ((octets.drop 12).take 4) = h.timestamp.toNat
  checksum : (octets.drop 16).take 16 = h.checksum.toOctets

/-- A word spells its number. -/
theorem spelled_toOctets (w : Word) : spelled w.toOctets = w.toUInt32.toNat := by
  have ha := w.a.toNat_lt
  have hb := w.b.toNat_lt
  have hc := w.c.toNat_lt
  have hd := w.d.toNat_lt
  simp only [spelled, Word.toOctets, List.foldl_cons, List.foldl_nil, Word.toUInt32,
    UInt32.toNat_ofNat']
  omega

/-- The first two octets of a word are the magic ones exactly if they spell the magic number. -/
theorem magic_octets_iff (w : Word) : [w.a, w.b] = [0x21, 0x31] ↔ w.upper = magic := by
  constructor
  · intro h
    apply UInt16.toNat_inj.mp
    rw [← Frame.spelled_upper, h]
    rfl
  · intro h
    have ha := w.a.toNat_lt
    have hb := w.b.toNat_lt
    have hspelled : w.a.toNat * 256 + w.b.toNat = 0x2131 := by
      have hnumber := Frame.spelled_upper w
      rw [h] at hnumber
      simpa [spelled, magic] using hnumber
    simp only [List.cons.injEq, and_true, ← UInt8.toNat_inj, UInt8.reduceToNat]
    omega

/-- The header of two blocks is laid out in them, if they start with the magic octets. -/
theorem laidOut_ofBlocks (fields sum : Block) (rest : Octets) (h : fields.w0.upper = magic) :
    (ofBlocks fields sum).LaidOut (fields.toOctets ++ (sum.toOctets ++ rest)) where
  magic := (magic_octets_iff fields.w0).mpr h
  length := Frame.spelled_lower fields.w0
  unknown := spelled_toOctets fields.w1
  deviceId := spelled_toOctets fields.w2
  timestamp := spelled_toOctets fields.w3
  checksum := rfl

/-- A header is laid out in the octets that are written for it, whatever follows them. -/
theorem laidOut_toOctets_append (h : Header) (rest : Octets) : h.LaidOut (h.toOctets ++ rest) := by
  have hmagic : h.fields.w0.upper = magic := Word.upper_ofHalves _ _
  have hlaid := laidOut_ofBlocks h.fields h.checksum rest hmagic
  rwa [ofBlocks_fields, ← List.append_assoc] at hlaid

namespace Starts

variable {h : Header} {octets rest : Octets}

/-- The header that octets start with is laid out in them. -/
theorem laidOut (hstarts : h.Starts octets rest) : h.LaidOut octets := by
  rw [hstarts.octets_eq]
  exact h.laidOut_toOctets_append rest

/-- The header that octets start with is written as their first thirty-two. -/
theorem toOctets_eq_take (hstarts : h.Starts octets rest) : h.toOctets = octets.take 32 := by
  have hlength : h.toOctets.length = 32 := h.length_toOctets
  rw [hstarts.octets_eq, List.take_left' hlength]

/-- The octets are no more than a header can declare. -/
theorem length_le (hstarts : h.Starts octets rest) : octets.length ≤ 65535 := by
  have hbound := h.length.toNat_lt
  rw [hstarts.length_octets, ← hstarts.length_eq]
  omega

/-- The declared length tells the length of what follows the header. -/
theorem bodyLength_eq (hstarts : h.Starts octets rest) : h.bodyLength = rest.length := by
  rw [bodyLength, hstarts.length_eq]
  omega

end Starts

/-- What a header declares to follow it follows it. -/
theorem starts_toOctets_append (h : Header) (body : Octets) (hlength : 32 ≤ h.length.toNat)
    (hbody : body.length = h.length.toNat - 32) : h.Starts (h.toOctets ++ body) body := by
  refine ⟨rfl, ?_⟩
  rw [size]
  omega

/-! ## Octets without a header -/

section

variable {octets : Octets}

/-- Octets that fill a header are refused for the number they start with, if it is not the magic one. -/
theorem parse_of_magic_ne (hsize : 32 ≤ octets.length) (hmagic : octets.take 2 ≠ [0x21, 0x31]) :
    ∃ m : UInt16, m.toNat = spelled (octets.take 2) ∧ parse octets = .error (.invalidMagic m) := by
  obtain ⟨fields, sum, rest, rfl⟩ := exists_split octets hsize
  have hne : fields.w0.upper ≠ magic := fun h => hmagic ((magic_octets_iff fields.w0).mpr h)
  refine ⟨fields.w0.upper, (Frame.spelled_upper fields.w0).symm, ?_⟩
  rw [parse_split, if_pos hne]

/-- Octets that start with the magic ones are refused for the length they declare, if it is not the
one they have. -/
theorem parse_of_length_ne (hsize : 32 ≤ octets.length) (hmagic : octets.take 2 = [0x21, 0x31])
    (hlength : spelled ((octets.drop 2).take 2) ≠ octets.length) :
    parse octets =
      .error (.lengthMismatch (spelled ((octets.drop 2).take 2)) octets.length) := by
  obtain ⟨fields, sum, rest, rfl⟩ := exists_split octets hsize
  have hupper : fields.w0.upper = magic := (magic_octets_iff fields.w0).mp hmagic
  have hlower := (Frame.spelled_split fields sum rest).2
  rw [hlower, length_split] at hlength ⊢
  rw [parse_split, if_neg (not_not.mpr hupper), if_pos hlength]

/-- A header is read exactly from octets that fill one, start with the magic octets and declare the
length they have. -/
theorem exists_parse_eq_ok_iff :
    (∃ h, parse octets = .ok h) ↔
      32 ≤ octets.length ∧ octets.take 2 = [0x21, 0x31] ∧
        spelled ((octets.drop 2).take 2) = octets.length := by
  constructor
  · rintro ⟨h, hparse⟩
    obtain ⟨rest, hstarts⟩ := (parse_eq_ok_iff octets h).mp hparse
    have hlength : octets.length = 32 + rest.length := hstarts.length_octets
    refine ⟨by omega, hstarts.laidOut.magic, ?_⟩
    rw [hstarts.laidOut.length, hstarts.length_eq, hstarts.length_octets]
  · rintro ⟨hsize, hmagic, hlength⟩
    obtain ⟨fields, sum, rest, rfl⟩ := exists_split octets hsize
    have hupper : fields.w0.upper = magic := (magic_octets_iff fields.w0).mp hmagic
    rw [(Frame.spelled_split fields sum rest).2, length_split] at hlength
    apply Exists.intro (ofBlocks fields sum)
    rw [parse_split, if_neg (not_not.mpr hupper), if_neg (not_not.mpr hlength)]

end

/-- A header is read exactly from octets that fill one, start with the magic octets and declare the
length they have, which no header can do for more than 65535. Each field is read where it stands, most
significant octet first, and writing the header gives the first thirty-two octets back. A header that
declares a length of its own and is followed by as much more is read back from what is written, and the
rest is empty exactly in a handshake. All other octets are refused: as too short for a header, for the
number they start with, or for the length they declare, whichever comes first. -/
theorem parse_inverse_of_toOctets (octets : Octets) :
    ((∃ h, parse octets = .ok h) ↔
        32 ≤ octets.length ∧ octets.take 2 = [0x21, 0x31] ∧
          spelled ((octets.drop 2).take 2) = octets.length) ∧
      (∀ h, parse octets = .ok h →
        octets.length ≤ 65535 ∧ h.LaidOut octets ∧ h.toOctets = octets.take 32) ∧
      (∀ h : Header, h.LaidOut h.toOctets ∧
        ∀ body : Octets, 32 ≤ h.length.toNat → body.length = h.length.toNat - 32 →
          parse (h.toOctets ++ body) = .ok h ∧ h.bodyLength = body.length ∧
            (h.isHandshake = true ↔ body = [])) ∧
      (octets.length < 32 → parse octets = .error (.frameTooShort 32 octets.length)) ∧
      (32 ≤ octets.length → octets.take 2 ≠ [0x21, 0x31] →
        ∃ m : UInt16, m.toNat = spelled (octets.take 2) ∧
          parse octets = .error (.invalidMagic m)) ∧
      (32 ≤ octets.length → octets.take 2 = [0x21, 0x31] →
        spelled ((octets.drop 2).take 2) ≠ octets.length →
          parse octets =
            .error (.lengthMismatch (spelled ((octets.drop 2).take 2)) octets.length)) := by
  refine ⟨exists_parse_eq_ok_iff, ?_, ?_, parse_of_length_lt octets, parse_of_magic_ne,
    parse_of_length_ne⟩
  · intro h hparse
    obtain ⟨rest, hstarts⟩ := (parse_eq_ok_iff octets h).mp hparse
    exact ⟨hstarts.length_le, hstarts.laidOut, hstarts.toOctets_eq_take⟩
  · intro h
    constructor
    · simpa using h.laidOut_toOctets_append []
    · intro body hlength hbody
      have hstarts := h.starts_toOctets_append body hlength hbody
      exact ⟨(parse_eq_ok_iff _ h).mpr ⟨body, hstarts⟩, hstarts.bodyLength_eq,
        hstarts.isHandshake_iff⟩

end Header

end Appliance
