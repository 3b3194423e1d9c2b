import Appliance.Proofs.FrameAcceptance

/-!
# Frames that were changed on their way

The digest of a frame covers its first half, the token and its body, each once and at a place of its
own, so that frames that differ in what is covered, or are read under another token, have different
octets covered. A change of the digest alone is always noticed. A change of what is covered is noticed
unless two different strings have the same digest, and nothing is assumed of how likely that is. A
frame that was cut or continued no longer has the length it declares.

The magic octets and the length are the first four, so that a change behind them leaves a header that
can be read: what is wrong with such a frame is its digest.
-/

namespace Appliance

/-- Two strings of octets have one length and are the same outside of some places. -/
structure DifferOnlyAt (places : Nat → Prop) (xs ys : Octets) : Prop where
  length_eq : xs.length = ys.length
  getElem?_eq : ∀ i, ¬ places i → xs[i]? = ys[i]?

namespace DifferOnlyAt

variable {places : Nat → Prop} {xs ys : Octets}

/-- Between two places without a difference the octets are the same. -/
theorem slice_eq (h : DifferOnlyAt places xs ys) (m n : Nat)
    (hn : ∀ i, m ≤ i → i < m + n → ¬ places i) : (xs.drop m).take n = (ys.drop m).take n := by
  apply List.ext_getElem?
  intro i
  rw [List.getElem?_take, List.getElem?_take, List.getElem?_drop, List.getElem?_drop]
  by_cases hi : i < n
  · rw [if_pos hi, if_pos hi, h.getElem?_eq (m + i) (hn (m + i) (by omega) (by omega))]
  · rw [if_neg hi, if_neg hi]

/-- From a place on without a difference the octets are the same. -/
theorem drop_eq (h : DifferOnlyAt places xs ys) (m : Nat) (hm : ∀ i, m ≤ i → ¬ places i) :
    xs.drop m = ys.drop m := by
  apply List.ext_getElem?
  intro i
  rw [List.getElem?_drop, List.getElem?_drop, h.getElem?_eq (m + i) (hm (m + i) (by omega))]

/-- A string differs only at a place from the one in which the octet there is replaced. -/
theorem set (xs : Octets) (i : Nat) (x : UInt8) (hi : places i) :
    DifferOnlyAt places (xs.set i x) xs where
  length_eq := List.length_set
  getElem?_eq j hj := List.getElem?_set_ne fun hij : i = j => hj (hij ▸ hi)

end DifferOnlyAt

/-- Octets that fill a header and start with the first four of a frame have a header in order exactly
if they are as many, and are refused for their length otherwise. -/
theorem Header.exists_parse_of_take_eq {h : Header} {frame rest octets : Octets}
    (hstarts : h.Starts frame rest) (hsize : 32 ≤ octets.length)
    (htake : octets.take 4 = frame.take 4) :
    ∃ header, parse octets = if octets.length = frame.length then .ok header
      else .error (.lengthMismatch frame.length octets.length) := by
  obtain ⟨fields, sum, rest', rfl⟩ := exists_split octets hsize
  have hword : fields.w0 = h.fields.w0 := by
    rw [hstarts.split_eq] at htake
    have hread : Word.take? (fields.w0.toOctets ++ []) = Word.take? (h.fields.w0.toOctets ++ []) :=
      congrArg Word.take? htake
    rw [Word.take?_toOctets_append, Word.take?_toOctets_append] at hread
    exact congrArg Prod.fst (Option.some.inj hread)
  have hmagic : fields.w0.upper = magic := by
    rw [hword, Header.fields, Word.upper_ofHalves]
  have hdeclared : fields.w0.lower.toNat = frame.length := by
    rw [hword, Header.fields, Word.lower_ofHalves, hstarts.length_eq, hstarts.length_octets]
  refine ⟨ofBlocks fields sum, ?_⟩
  rw [parse_split, if_neg (not_not.mpr hmagic), hdeclared, length_split]
  by_cases hlength : size + rest'.length = frame.length
  · rw [if_neg (not_not.mpr hlength.symm), if_pos hlength]
  · rw [if_pos (Ne.symm hlength), if_neg hlength]

namespace Frame

/-- The octets that the digest of a frame covers under a token. -/
def covered (octets : Octets) (token : Token) : Octets :=
  octets.take 16 ++ token.toOctets ++ octets.drop 32

/-- Octets are a first half, the digest they carry and a body. -/
theorem eq_append_carried (octets : Octets) :
    octets = octets.take 16 ++ (carried octets ++ octets.drop 32) := by
  have hrest : octets.drop 16 = carried octets ++ octets.drop 32 := by
    have hdrop : (octets.drop 16).drop 16 = octets.drop 32 := List.drop_drop
    rw [carried, ← hdrop, List.take_append_drop]
  rw [← hrest, List.take_append_drop]

/-- What is covered has the first half, the token and the body at places of their own: octets that
fill a header and have the same covered agree in all three. -/
theorem covered_inj {octets octets' : Octets} {token token' : Token} (h : 32 ≤ octets.length)
    (h' : 32 ≤ octets'.length) (hsame : covered octets token = covered octets' token') :
    octets.take 16 = octets'.take 16 ∧ token = token' ∧ octets.drop 32 = octets'.drop 32 := by
  rw [covered, covered, List.append_assoc, List.append_assoc] at hsame
  obtain ⟨hhalf, htail⟩ := List.append_inj hsame (by simp only [List.length_take]; omega)
  obtain ⟨htoken, hbody⟩ := List.append_inj htail rfl
  cases token
  cases token'
  exact ⟨hhalf, congrArg Token.mk (Block.toOctets_inj.mp htoken), hbody⟩

/-- A frame with a body that is read carries the digest of what is covered, behind a header in order. -/
theorem exists_starts_of_decode {frame : Octets} {token : Token} {f : Frame}
    (hlong : 32 < frame.length) (hframe : decode frame token = .ok f) :
    ∃ (h : Header) (rest : Octets), h.Starts frame rest ∧
      carried frame = digestOf frame token := by
  obtain ⟨h, body⟩ := f
  cases body with
  | none =>
    have := ((decode_eq_ok_none_iff frame token h).mp hframe).1.1
    omega
  | some v =>
    obtain ⟨plain, hstarts, hsum, -⟩ := (decode_eq_ok_some_iff frame token h v).mp hframe
    exact ⟨h, _, hstarts, by rw [digestOf_of_starts hstarts, carried_of_starts hstarts, hsum]⟩

/-- Octets with a header in order and a body are refused for their checksum exactly if they carry
another digest than that of what is covered. -/
theorem decode_eq_checksumMismatch_iff {octets : Octets} {header : Header} (token : Token)
    (hlong : 32 < octets.length) (hparse : Header.parse octets = .ok header) :
    decode octets token =
        .error (.checksumMismatch (Hex.encode (digestOf octets token))
          (Hex.encode (carried octets))) ↔
      digestOf octets token ≠ carried octets := by
  obtain ⟨rest, hstarts⟩ := (Header.parse_eq_ok_iff octets header).mp hparse
  have hgreeting : ¬ IsGreeting octets := fun hgreeting => by
    have := hgreeting.1
    omega
  rw [decode_eq_error_iff]
  constructor
  · rintro ⟨-, hfault, -⟩
    cases hfault with
    | checksum hne => exact hne
  · intro hne
    exact ⟨hgreeting, .checksum hne, three_le_precedence_of_starts hstarts token⟩

/-- Octets that carry the digest of some string are refused for their checksum exactly if what they
cover has another one. -/
theorem decode_eq_checksumMismatch_iff_digest_ne {octets message : Octets} {token : Token}
    {header : Header} (hlong : 32 < octets.length) (hparse : Header.parse octets = .ok header)
    (hcarried : carried octets = (Md5.digest message).toOctets) :
    decode octets token =
        .error (.checksumMismatch (Hex.encode (digestOf octets token))
          (Hex.encode (carried octets))) ↔
      Md5.digest (covered octets token) ≠ Md5.digest message := by
  rw [decode_eq_checksumMismatch_iff token hlong hparse, hcarried]
  exact not_congr Block.toOctets_inj

section

variable {frame octets : Octets} {token : Token} {h : Header} {rest : Octets}

/-- A change of the digest alone is refused as such. -/
theorem decode_of_digest_changed (hlong : 32 < frame.length) (hstarts : h.Starts frame rest)
    (hcarried : carried frame = digestOf frame token) (hne : octets ≠ frame)
    (hdiffer : DifferOnlyAt (fun i => 16 ≤ i ∧ i < 32) octets frame) :
    decode octets token =
      .error (.checksumMismatch (Hex.encode (carried frame)) (Hex.encode (carried octets))) := by
  have hlength := hdiffer.length_eq
  have hhalf : octets.take 16 = frame.take 16 := hdiffer.slice_eq 0 16 (by omega)
  have hbody : octets.drop 32 = frame.drop 32 := hdiffer.drop_eq 32 (by omega)
  have hfour : octets.take 4 = frame.take 4 := hdiffer.slice_eq 0 4 (by omega)
  have hdigest : digestOf octets token = carried frame := by
    rw [hcarried, digestOf, hhalf, hbody, digestOf]
  have hchanged : carried frame ≠ carried octets := by
    intro hsame
    apply hne
    rw [eq_append_carried octets, hhalf, ← hsame, hbody, ← eq_append_carried]
  obtain ⟨header, hparse⟩ := Header.exists_parse_of_take_eq hstarts (by omega) hfour
  rw [if_pos hlength] at hparse
  have hrefused := (decode_eq_checksumMismatch_iff token (by omega) hparse).mpr
    (by rw [hdigest]; exact hchanged)
  rwa [hdigest] at hrefused

/-- A change of what is covered, behind the length, is refused exactly if it changes the digest. -/
theorem decode_of_covered_changed (hlong : 32 < frame.length) (hstarts : h.Starts frame rest)
    (hcarried : carried frame = digestOf frame token) (hne : octets ≠ frame)
    (hdiffer : DifferOnlyAt (fun i => 4 ≤ i ∧ i < 16 ∨ 32 ≤ i) octets frame) :
    covered octets token ≠ covered frame token ∧
      (decode octets token =
          .error (.checksumMismatch (Hex.encode (digestOf octets token))
            (Hex.encode (carried octets))) ↔
        Md5.digest (covered octets token) ≠ Md5.digest (covered frame token)) := by
  have hlength := hdiffer.length_eq
  have hfour : octets.take 4 = frame.take 4 := hdiffer.slice_eq 0 4 (by omega)
  have hkept : carried octets = carried frame := hdiffer.slice_eq 16 16 (by omega)
  obtain ⟨header, hparse⟩ := Header.exists_parse_of_take_eq hstarts (by omega) hfour
  rw [if_pos hlength] at hparse
  refine ⟨?_, decode_eq_checksumMismatch_iff_digest_ne (by omega) hparse (hkept.trans hcarried)⟩
  intro hsame
  obtain ⟨hhalf, -, hbody⟩ := covered_inj (by omega) (by omega) hsame
  apply hne
  rw [eq_append_carried octets, hhalf, hkept, hbody, ← eq_append_carried]

/-- A frame that was cut or continued is refused for its length, whatever the token. -/
theorem decode_of_cut_or_continued (hlong : 32 < frame.length) (hstarts : h.Starts frame rest)
    (hne : octets ≠ frame) (hcut : octets <+: frame ∨ frame <+: octets) (other : Token) :
    decode octets other =
      .error (if octets.length < 32 then .frameTooShort 32 octets.length
        else .lengthMismatch frame.length octets.length) := by
  have hlength : octets.length ≠ frame.length := by
    intro hlength
    obtain hshort | hcontinued := hcut
    · exact hne (hshort.eq_of_length hlength)
    · exact hne (hcontinued.eq_of_length hlength.symm).symm
  by_cases hsize : octets.length < 32
  · rw [if_pos hsize, decode, Header.parse_of_length_lt octets hsize]
    rfl
  · have hfour : octets.take 4 = frame.take 4 := by
      obtain ⟨tail, rfl⟩ | ⟨tail, rfl⟩ := hcut
      · rw [List.take_append_of_le_length (by omega)]
      · rw [List.take_append_of_le_length (by omega)]
    obtain ⟨header, hparse⟩ := Header.exists_parse_of_take_eq hstarts (by omega) hfour
    rw [if_neg hlength] at hparse
    rw [if_neg hsize, decode, hparse]

end

/-- A change of a frame that is read is noticed: that of the digest always, that of what the digest
covers exactly if the digest changes with it, a cut or a continuation by the length, and another token
exactly if it gives another digest. What is covered after the change is never the same string. -/
theorem change_detected (frame : Octets) (token : Token) (f : Frame) (hlong : 32 < frame.length)
    (hframe : decode frame token = .ok f) :
    (∀ octets, octets ≠ frame → DifferOnlyAt (fun i => 16 ≤ i ∧ i < 32) octets frame →
        decode octets token =
          .error (.checksumMismatch (Hex.encode (carried frame)) (Hex.encode (carried octets)))) ∧
      (∀ octets, octets ≠ frame →
        DifferOnlyAt (fun i => 4 ≤ i ∧ i < 16 ∨ 32 ≤ i) octets frame →
          covered octets token ≠ covered frame token ∧
            (decode octets token =
                .error (.checksumMismatch (Hex.encode (digestOf octets token))
                  (Hex.encode (carried octets))) ↔
              Md5.digest (covered octets token) ≠ Md5.digest (covered frame token))) ∧
      (∀ octets, octets ≠ frame → octets <+: frame ∨ frame <+: octets → ∀ other,
        decode octets other =
          .error (if octets.length < 32 then .frameTooShort 32 octets.length
            else .lengthMismatch frame.length octets.length)) ∧
      ∀ other, other ≠ token →
        covered frame other ≠ covered frame token ∧
          (decode frame other =
              .error (.checksumMismatch (Hex.encode (digestOf frame other))
                (Hex.encode (carried frame))) ↔
            Md5.digest (covered frame other) ≠ Md5.digest (covered frame token)) := by
  obtain ⟨h, rest, hstarts, hcarried⟩ := exists_starts_of_decode hlong hframe
  refine ⟨?_, ?_, ?_, ?_⟩
  · intro octets hne hdiffer
    exact decode_of_digest_changed hlong hstarts hcarried hne hdiffer
  · intro octets hne hdiffer
    exact decode_of_covered_changed hlong hstarts hcarried hne hdiffer
  · intro octets hne hcut other
    exact decode_of_cut_or_continued hlong hstarts hne hcut other
  · intro other hother
    have hparse := (Header.parse_eq_ok_iff frame h).mpr ⟨rest, hstarts⟩
    refine ⟨?_, decode_eq_checksumMismatch_iff_digest_ne hlong hparse hcarried⟩
    intro hsame
    exact hother (covered_inj (by omega) (by omega) hsame).2.1

/-- A frame of device 291 with the body `[1]`, under the token of zeros. -/
def sealedReply : Octets :=
  [0x21, 0x31, 0, 48, 0, 0, 0, 0, 0, 0, 1, 35, 0, 0, 0, 7, 52, 243, 202, 174, 42, 250, 42, 151, 120, 153,
    93, 177, 97, 54, 131, 245, 242, 60, 220, 33, 123, 75, 52, 19, 100, 69, 70, 0, 132, 83, 160, 61]

/-- The frame is refused with its last octet of the digest or its clock changed, cut by a block,
continued by an octet, and under another token. -/
theorem change_detected_everywhere :
    32 < sealedReply.length ∧ (∃ f, decode sealedReply Token.zero = .ok f) ∧
      decode (sealedReply.set 31 0) Token.zero =
        .error (.checksumMismatch "34f3caae2afa2a9778995db1613683f5"
          "34f3caae2afa2a9778995db161368300") ∧
      (∃ expected received, decode (sealedReply.set 15 8) Token.zero =
        .error (.checksumMismatch expected received)) ∧
      decode (sealedReply.take 32) Token.zero = .error (.lengthMismatch 48 32) ∧
      decode (sealedReply ++ [0]) Token.zero = .error (.lengthMismatch 48 49) ∧
      ∃ expected received, decode sealedReply ⟨Block.fill 1⟩ =
        .error (.checksumMismatch expected received) := by
  have hlong : 32 < sealedReply.length := by decide
  have hread : decode sealedReply Token.zero =
      .ok ⟨headerOf 0 291 7 Token.zero (sealedReply.drop 32), some (.array [.int 1])⟩ := by
    decide +kernel
  obtain ⟨hdigest, hcovered, hcut, htoken⟩ :=
    change_detected sealedReply Token.zero _ hlong hread
  refine ⟨hlong, ⟨_, hread⟩, ?_, ?_, ?_, ?_, ?_⟩
  · exact hdigest _ (by decide) (.set _ _ _ (by decide))
  · exact ⟨_, _, (hcovered _ (by decide) (.set _ _ _ (by decide))).2.mpr (by decide +kernel)⟩
  · exact hcut _ (by decide) (Or.inl (by decide)) Token.zero
  · exact hcut _ (by decide) (Or.inr (by decide)) Token.zero
  · exact ⟨_, _, (htoken ⟨Block.fill 1⟩ (by decide)).2.mpr (by decide +kernel)⟩

end Frame

end Appliance
