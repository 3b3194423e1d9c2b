import Appliance.Frame
import Appliance.Proofs.BodyCipher

/-!
# How a frame is laid out

A frame is two blocks, the fields and the checksum, and the rest of it. Everything that is read off
a header depends on this split alone, so that the laws here are stated of octets that are split
already; `exists_split` says when octets can be.
-/

namespace Appliance

/-- Octets that fill a header are two blocks and a rest. -/
theorem exists_split (octets : Octets) (h : Header.size ≤ octets.length) :
    ∃ fields sum : Block, ∃ rest, octets = fields.toOctets ++ (sum.toOctets ++ rest) := by
  have htake (xs : Octets) (hxs : 16 ≤ xs.length) :
      ∃ (b : Block) (rest : Octets), xs = b.toOctets ++ rest := by
    cases hblock : Block.take? xs with
    | none =>
      have := Block.take?_eq_none_iff.mp hblock
      omega
    | some p => exact ⟨p.1, p.2, Block.take?_eq_some_iff.mp hblock⟩
  have hsize : 32 ≤ octets.length := h
  obtain ⟨fields, tail, rfl⟩ := htake octets (by omega)
  rw [List.length_append, Block.length_toOctets] at hsize
  obtain ⟨sum, rest, rfl⟩ := htake tail (by omega)
  exact ⟨fields, sum, rest, rfl⟩

/-- The rest of a frame follows thirty-two octets. -/
@[simp] theorem drop_size_split (fields sum : Block) (rest : Octets) :
    (fields.toOctets ++ (sum.toOctets ++ rest)).drop Header.size = rest := rfl

/-- A frame is as long as its header and its rest. -/
theorem length_split (fields sum : Block) (rest : Octets) :
    (fields.toOctets ++ (sum.toOctets ++ rest)).length = Header.size + rest.length := by
  simp only [List.length_append, Block.length_toOctets, Header.size]
  omega

namespace Header

/-- The header that two blocks are. -/
def ofBlocks (fields sum : Block) : Header :=
  ⟨fields.w0.lower, fields.w1.toUInt32, fields.w2.toUInt32, fields.w3.toUInt32, sum⟩

/-- A header has thirty-two octets. -/
@[simp] theorem length_toOctets (h : Header) : h.toOctets.length = size := by
  rw [toOctets, List.length_append, Block.length_toOctets, Block.length_toOctets]
  rfl

/-- What is too short for a header is refused as that. -/
theorem parse_of_length_lt (octets : Octets) (h : octets.length < size) :
    parse octets = .error (.frameTooShort size octets.length) := by
  have hshort : octets.length < 32 := h
  unfold parse
  cases hfields : Block.take? octets with
  | none => rfl
  | some p =>
    obtain ⟨fields, rest⟩ := p
    have hlength := congrArg List.length (Block.take?_eq_some_iff.mp hfields)
    rw [List.length_append, Block.length_toOctets] at hlength
    have hsum : Block.take? rest = none := Block.take?_eq_none_iff.mpr (by omega)
    simp only [hsum]

/-- A header is read from two blocks if they start with the magic octets and declare the length. -/
theorem parse_split (fields sum : Block) (rest : Octets) :
    parse (fields.toOctets ++ (sum.toOctets ++ rest)) =
      if fields.w0.upper ≠ magic then .error (.invalidMagic fields.w0.upper)
      else if fields.w0.lower.toNat ≠ size + rest.length then
        .error (.lengthMismatch fields.w0.lower.toNat (size + rest.length))
      else .ok (ofBlocks fields sum) := by
  unfold parse
  rw [Block.take?_toOctets_append]
  dsimp only
  rw [Block.take?_toOctets_append]
  dsimp only
  rw [length_split]
  rfl

/-- The fields of the header that two blocks are, if they start with the magic octets. -/
theorem fields_ofBlocks (fields sum : Block) (h : fields.w0.upper = magic) :
    (ofBlocks fields sum).fields = fields := by
  simp [Header.fields, ofBlocks, ← h]

/-- The two blocks of a header give the header back. -/
@[simp] theorem ofBlocks_fields (h : Header) : ofBlocks h.fields h.checksum = h := by
  simp [Header.fields, ofBlocks]

/-- Octets are a header that declares their length, and a rest. -/
structure Starts (h : Header) (octets rest : Octets) : Prop where
  octets_eq : octets = h.toOctets ++ rest
  length_eq : h.length.toNat = size + rest.length

namespace Starts

variable {h : Header} {octets rest : Octets}

/-- The octets cut into the two blocks of the header and the rest. -/
theorem split_eq (hstarts : Starts h octets rest) :
    octets = h.fields.toOctets ++ (h.checksum.toOctets ++ rest) := by
  rw [hstarts.octets_eq, toOctets, List.append_assoc]

/-- The rest is what follows thirty-two octets. -/
theorem drop_size (hstarts : Starts h octets rest) : octets.drop size = rest := by
  rw [hstarts.split_eq, drop_size_split]

/-- The octets have the declared length. -/
theorem length_octets (hstarts : Starts h octets rest) : octets.length = size + rest.length := by
  rw [hstarts.split_eq, length_split]

/-- The header belongs to a handshake exactly when nothing follows it. -/
theorem isHandshake_iff (hstarts : Starts h octets rest) : h.isHandshake = true ↔ rest = [] := by
  rw [isHandshake, beq_iff_eq, hstarts.length_eq, Nat.add_eq_left, List.length_eq_zero_iff]

end Starts

/-- A header is read exactly from octets that it starts. -/
theorem parse_eq_ok_iff (octets : Octets) (h : Header) :
    parse octets = .ok h ↔ ∃ rest, Starts h octets rest := by
  constructor
  · intro hparse
    rcases Nat.lt_or_ge octets.length size with hshort | hlong
    · rw [parse_of_length_lt octets hshort] at hparse
      cases hparse
    · obtain ⟨fields, sum, rest, rfl⟩ := exists_split octets hlong
      rw [parse_split] at hparse
      split at hparse
      · cases hparse
      · rename_i hmagic
        split at hparse
        · cases hparse
        · rename_i hlength
          cases hparse
          refine ⟨rest, ?_, not_not.mp hlength⟩
          rw [toOctets, fields_ofBlocks fields sum (not_not.mp hmagic), List.append_assoc]
          rfl
  · rintro ⟨rest, hstarts⟩
    rw [hstarts.split_eq, parse_split, if_neg, if_neg, ofBlocks_fields]
    · simpa [Header.fields] using hstarts.length_eq
    · simp [Header.fields]

end Header

/-- A frame with a header in order is checked for its checksum, its cipher and its text, in this
order, if it has a body at all. -/
theorem Frame.decode_of_starts (octets : Octets) (token : Token) (h : Header) (rest : Octets)
    (hstarts : h.Starts octets rest) :
    decode octets token =
      if rest = [] then .ok ⟨h, none⟩
      else if checksum h.fields token rest = h.checksum then
        match token.decrypt? rest with
        | none => .error .decrypt
        | some plain =>
          match Body.parse plain with
          | .error e => .error (.payload e)
          | .ok v => .ok ⟨h, some v⟩
      else
        .error (.checksumMismatch (Hex.encode (checksum h.fields token rest).toOctets)
          (Hex.encode h.checksum.toOctets)) := by
  have hparse := (Header.parse_eq_ok_iff octets h).mpr ⟨rest, hstarts⟩
  have hhandshake := hstarts.isHandshake_iff
  unfold decode
  rw [hparse]
  dsimp only
  rw [hstarts.drop_size]
  by_cases hempty : rest = []
  · rw [if_pos (hhandshake.mpr hempty), if_pos hempty]
  · rw [if_neg (fun hh => hempty (hhandshake.mp hh)), if_neg hempty]
    by_cases hsum : checksum h.fields token rest = h.checksum
    · exact (if_neg (not_not.mpr hsum)).trans (if_pos hsum).symm
    · exact (if_pos hsum).trans (if_neg hsum).symm

end Appliance
