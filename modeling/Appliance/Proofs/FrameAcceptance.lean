import Appliance.Proofs.FrameLayout

/-!
# Which octets are frames

A reader of frames accepts exactly two kinds of octets: a header alone, and a header around a body
that was enciphered under the token, with the digest of its first half, the token and the cipher
text in its second half. Every other octets are refused, for the first reason that applies to them.

The reasons are stated of the octets, each without regard to the ones before it, and so is the order
in which they count. The cipher and the digest are those of the token; that a text has one cipher
text only is a law of the body cipher.
-/

namespace Appliance

namespace Frame

/-- The number that some octets spell, most significant octet first. -/
def spelled (octets : Octets) : Nat := octets.foldl (fun n x => n * 256 + x.toNat) 0

/-- The first sixteen octets of a frame whose body has some number of octets. -/
def leading (bodyLength : Nat) (unknown deviceId timestamp : UInt32) : Octets :=
  [0x21, 0x31] ++ [UInt8.ofNat ((32 + bodyLength) / 256), UInt8.ofNat (32 + bodyLength)] ++
    (Word.ofUInt32 unknown).toOctets ++ (Word.ofUInt32 deviceId).toOctets ++
    (Word.ofUInt32 timestamp).toOctets

/-- The digest of a frame around a cipher text: of its first sixteen octets, the token and the
cipher text. -/
def digest (unknown deviceId timestamp : UInt32) (token : Token) (cipher : Octets) : Block :=
  Md5.digest (leading cipher.length unknown deviceId timestamp ++ token.toOctets ++ cipher)

/-- A frame around a cipher text. -/
def assembled (unknown deviceId timestamp : UInt32) (token : Token) (cipher : Octets) : Octets :=
  leading cipher.length unknown deviceId timestamp ++
    (digest unknown deviceId timestamp token cipher).toOctets ++ cipher

/-- The digest that a frame has to carry under a token. -/
def digestOf (octets : Octets) (token : Token) : Octets :=
  (Md5.digest (octets.take 16 ++ token.toOctets ++ octets.drop 32)).toOctets

/-- The octets where a frame carries its digest. -/
def carried (octets : Octets) : Octets := (octets.drop 16).take 16

/-- A header without a body: thirty-two octets that start with the magic ones and their number. -/
def IsGreeting (octets : Octets) : Prop :=
  octets.length = 32 ∧ octets.take 4 = [0x21, 0x31, 0x00, 0x20]

/-- What may be wrong with octets as a frame under a token, each reason for itself. -/
inductive Fault (octets : Octets) (token : Token) : ProtocolError → Prop
  /-- They are fewer than a header has. -/
  | tooShort (h : octets.length < 32) : Fault octets token (.frameTooShort 32 octets.length)
  /-- They start with another number than the magic one. -/
  | magic (m : UInt16) (hm : m.toNat = spelled (octets.take 2)) (h : m ≠ 0x2131) :
      Fault octets token (.invalidMagic m)
  /-- They declare another length than they have. -/
  | length (h : spelled ((octets.drop 2).take 2) ≠ octets.length) :
      Fault octets token (.lengthMismatch (spelled ((octets.drop 2).take 2)) octets.length)
  /-- They carry another digest than the token gives. -/
  | checksum (h : digestOf octets token ≠ carried octets) :
      Fault octets token
        (.checksumMismatch (Hex.encode (digestOf octets token)) (Hex.encode (carried octets)))
  /-- Their body is no plain text enciphered under the token. -/
  | cipher (h : ∀ plain, octets.drop 32 ≠ token.encrypt plain) : Fault octets token .decrypt
  /-- Their body is a plain text enciphered, but one that cannot be read. -/
  | payload (plain : Octets) (error : Json.Error) (h : octets.drop 32 = token.encrypt plain)
      (hplain : Body.parse plain = .error error) : Fault octets token (.payload error)

/-- The place of a reason in the order in which reasons count. -/
def precedence : ProtocolError → Nat
  | .frameTooShort _ _ => 0
  | .invalidMagic _ => 1
  | .lengthMismatch _ _ => 2
  | .checksumMismatch _ _ => 3
  | .decrypt => 4
  | .payload _ => 5
  | .payloadTooLarge _ _ | .invalidToken _ | .sessionNotInitialized => 6

/-- A reason is the first one that applies. -/
def FirstFault (octets : Octets) (token : Token) (e : ProtocolError) : Prop :=
  Fault octets token e ∧ ∀ e', Fault octets token e' → precedence e ≤ precedence e'

/-- At each place of the order one reason applies at most. -/
theorem Fault.eq_of_precedence_eq (octets : Octets) (token : Token) (e e' : ProtocolError)
    (h : Fault octets token e) (h' : Fault octets token e') (heq : precedence e = precedence e') :
    e = e' := by
  cases h <;> cases h' <;> try first | rfl | cases heq
  case magic.magic m hm _ m' hm' _ =>
    rw [UInt16.toNat_inj.mp (hm.trans hm'.symm)]
  case payload.payload plain error h hplain plain' error' h' hplain' =>
    have hsame : plain = plain' := by
      have := (token.decrypt?_eq_some_iff _ plain).mpr h
      rw [(token.decrypt?_eq_some_iff _ plain').mpr h'] at this
      simpa using this.symm
    subst hsame
    rw [hplain] at hplain'
    cases hplain'
    rfl

/-- The first reason that applies is the only one. -/
theorem FirstFault.unique (octets : Octets) (token : Token) (e e' : ProtocolError)
    (h : FirstFault octets token e) (h' : FirstFault octets token e') : e = e' :=
  Fault.eq_of_precedence_eq octets token e e' h.1 h'.1
    (Nat.le_antisymm (h.2 e' h'.1) (h'.2 e h.1))

/-! ## Reasons that do not apply -/

section

variable {octets : Octets} {token : Token} {e : ProtocolError}

/-- Octets that fill a header are not refused as too short. -/
theorem Fault.one_le_precedence (h : Fault octets token e) (hsize : 32 ≤ octets.length) :
    1 ≤ precedence e := by
  cases h with
  | tooShort hshort => omega
  | _ => simp [precedence]

/-- Octets that start with the magic ones are not refused for that either. -/
theorem Fault.two_le_precedence (h : Fault octets token e) (hsize : 32 ≤ octets.length)
    (hmagic : spelled (octets.take 2) = 0x2131) : 2 ≤ precedence e := by
  cases h with
  | tooShort hshort => omega
  | magic m hm hne =>
    have hnumber : m.toNat = (0x2131 : UInt16).toNat := hm.trans hmagic
    exact absurd (UInt16.toNat_inj.mp hnumber) hne
  | _ => simp [precedence]

/-- Octets that declare their length have a header in order. -/
theorem Fault.three_le_precedence (h : Fault octets token e) (hsize : 32 ≤ octets.length)
    (hmagic : spelled (octets.take 2) = 0x2131)
    (hlength : spelled ((octets.drop 2).take 2) = octets.length) : 3 ≤ precedence e := by
  have htwo := h.two_le_precedence hsize hmagic
  cases h with
  | tooShort _ | magic _ _ _ => simp [precedence] at htwo
  | length hne => exact absurd hlength hne
  | _ => simp [precedence]

/-- Octets that carry their digest can only be refused for their body. -/
theorem Fault.four_le_precedence (h : Fault octets token e) (hthree : 3 ≤ precedence e)
    (hdigest : digestOf octets token = carried octets) : 4 ≤ precedence e := by
  cases h with
  | tooShort _ | magic _ _ _ | length _ => simp [precedence] at hthree
  | checksum hne => exact absurd hdigest hne
  | _ => simp [precedence]

/-- Octets whose body is enciphered can only be refused for its text. -/
theorem Fault.five_le_precedence (h : Fault octets token e) (hfour : 4 ≤ precedence e)
    (plain : Octets) (hcipher : octets.drop 32 = token.encrypt plain) : 5 ≤ precedence e := by
  cases h with
  | tooShort _ | magic _ _ _ | length _ | checksum _ => simp [precedence] at hfour
  | cipher hne => exact absurd hcipher (hne plain)
  | payload _ _ _ _ => simp [precedence]

end

/-! ## What a header says -/

/-- The number in the first two octets of a word. -/
theorem spelled_upper (w : Word) : spelled [w.a, w.b] = w.upper.toNat := by
  have ha := w.a.toNat_lt
  have hb := w.b.toNat_lt
  simp only [spelled, List.foldl_cons, List.foldl_nil, Word.upper, UInt16.toNat_ofNat']
  omega

/-- The number in the last two octets of a word. -/
theorem spelled_lower (w : Word) : spelled [w.c, w.d] = w.lower.toNat := by
  have hc := w.c.toNat_lt
  have hd := w.d.toNat_lt
  simp only [spelled, List.foldl_cons, List.foldl_nil, Word.lower, UInt16.toNat_ofNat']
  omega

/-- The octets of a header and a rest, read at the places of the magic number and the length. -/
theorem spelled_split (fields sum : Block) (rest : Octets) :
    spelled ((fields.toOctets ++ (sum.toOctets ++ rest)).take 2) = fields.w0.upper.toNat ∧
      spelled (((fields.toOctets ++ (sum.toOctets ++ rest)).drop 2).take 2) =
        fields.w0.lower.toNat :=
  ⟨spelled_upper fields.w0, spelled_lower fields.w0⟩

section

variable {h : Header} {octets rest : Octets}

/-- Octets that a header starts can only be refused for what follows the header's fields. -/
theorem three_le_precedence_of_starts (hstarts : h.Starts octets rest) (token : Token)
    (e : ProtocolError) (he : Fault octets token e) : 3 ≤ precedence e := by
  have hlength : octets.length = 32 + rest.length := hstarts.length_octets
  obtain ⟨hupper, hlower⟩ := spelled_split h.fields h.checksum rest
  rw [← hstarts.split_eq] at hupper hlower
  refine he.three_le_precedence (by omega) ?_ ?_
  · rw [hupper, Header.fields, Word.upper_ofHalves]
    rfl
  · rw [hlower, Header.fields, Word.lower_ofHalves, hstarts.length_eq, hstarts.length_octets]

/-- The digest that octets have to carry is the checksum of their header's fields and the rest. -/
theorem digestOf_of_starts (hstarts : h.Starts octets rest) (token : Token) :
    digestOf octets token = (Appliance.checksum h.fields token rest).toOctets := by
  rw [hstarts.split_eq]
  rfl

/-- The digest that octets carry is their header's checksum. -/
theorem carried_of_starts (hstarts : h.Starts octets rest) :
    carried octets = h.checksum.toOctets := by
  rw [hstarts.split_eq]
  rfl

/-- The octets that a header starts are a header alone exactly when nothing follows. -/
theorem isGreeting_iff_of_starts (hstarts : h.Starts octets rest) :
    IsGreeting octets ↔ rest = [] := by
  have hlength : octets.length = 32 + rest.length := hstarts.length_octets
  constructor
  · intro hgreeting
    have := hgreeting.1
    exact List.length_eq_zero_iff.mp (by omega)
  · rintro rfl
    have h32 : h.length = 32 := UInt16.toNat_inj.mp hstarts.length_eq
    refine ⟨hlength, ?_⟩
    have htake : octets.take 4 = h.fields.w0.toOctets := by
      rw [hstarts.split_eq]
      rfl
    rw [htake, Header.fields, h32]
    rfl

end

/-- A header alone can be read. -/
theorem parse_ne_error_of_isGreeting (octets : Octets) (h : IsGreeting octets)
    (e : ProtocolError) : Header.parse octets ≠ .error e := by
  obtain ⟨hlength, htake⟩ := h
  obtain ⟨fields, sum, rest, rfl⟩ := exists_split octets (by rw [hlength]; exact Nat.le_refl 32)
  rw [length_split, Header.size] at hlength
  obtain ⟨hupper, hlower⟩ := spelled_split fields sum rest
  have htwo : (fields.toOctets ++ (sum.toOctets ++ rest)).take 2 =
      ((fields.toOctets ++ (sum.toOctets ++ rest)).take 4).take 2 := rfl
  have hnext : ((fields.toOctets ++ (sum.toOctets ++ rest)).drop 2).take 2 =
      ((fields.toOctets ++ (sum.toOctets ++ rest)).take 4).drop 2 := rfl
  rw [htwo, htake] at hupper
  rw [hnext, htake] at hlower
  have hmagic : fields.w0.upper = Header.magic := UInt16.toNat_inj.mp hupper.symm
  rw [Header.parse_split, if_neg (not_not.mpr hmagic), if_neg]
  · simp
  · rw [not_not, ← hlower, Header.size, hlength]
    rfl

/-! ## The reader -/

/-- A header that cannot be read is refused for the first reason that applies. -/
theorem firstFault_of_parse (octets : Octets) (token : Token) (e : ProtocolError)
    (h : Header.parse octets = .error e) : FirstFault octets token e := by
  rcases Nat.lt_or_ge octets.length 32 with hshort | hsize
  · rw [Header.parse_of_length_lt octets hshort] at h
    cases h
    exact ⟨.tooShort hshort, fun e' _ => Nat.zero_le _⟩
  · obtain ⟨fields, sum, rest, rfl⟩ := exists_split octets hsize
    obtain ⟨hupper, hlower⟩ := spelled_split fields sum rest
    rw [Header.parse_split] at h
    split at h
    · rename_i hmagic
      cases h
      exact ⟨.magic _ hupper.symm hmagic, fun e' he' => he'.one_le_precedence hsize⟩
    · rename_i hmagic
      split at h
      · rename_i hdeclared
        cases h
        rw [← length_split fields sum rest] at hdeclared ⊢
        rw [← hlower] at hdeclared ⊢
        refine ⟨.length hdeclared, fun e' he' => he'.two_le_precedence hsize ?_⟩
        rw [hupper, not_not.mp hmagic]
        rfl
      · cases h

/-- Octets with a header in order are refused for the first reason that applies to the rest. -/
theorem firstFault_of_starts (octets : Octets) (token : Token) (e : ProtocolError) (h : Header)
    (rest : Octets) (hstarts : h.Starts octets rest) (he : decode octets token = .error e) :
    rest ≠ [] ∧ FirstFault octets token e := by
  have hthree := three_le_precedence_of_starts hstarts token
  have hdrop : octets.drop 32 = rest := hstarts.drop_size
  rw [decode_of_starts octets token h rest hstarts] at he
  split at he
  · cases he
  · rename_i hrest
    refine ⟨hrest, ?_⟩
    split at he
    · rename_i hsum
      have hdigest : digestOf octets token = carried octets := by
        rw [digestOf_of_starts hstarts, carried_of_starts hstarts, hsum]
      have hfour (e') (he' : Fault octets token e') : 4 ≤ precedence e' :=
        he'.four_le_precedence (hthree e' he') hdigest
      split at he
      · rename_i hcipher
        cases he
        refine ⟨.cipher fun plain hplain => ?_, hfour⟩
        rw [hdrop, ← Token.decrypt?_eq_some_iff, hcipher] at hplain
        cases hplain
      · rename_i plain hcipher
        rw [Token.decrypt?_eq_some_iff, ← hdrop] at hcipher
        split at he
        · rename_i error hplain
          cases he
          exact ⟨.payload plain error hcipher hplain,
            fun e' he' => he'.five_le_precedence (hfour e' he') plain hcipher⟩
        · cases he
    · rename_i hsum
      have hne : digestOf octets token ≠ carried octets := by
        rw [digestOf_of_starts hstarts, carried_of_starts hstarts]
        intro hsame
        have := congrArg Block.ofOctets? hsame
        rw [Block.ofOctets?_toOctets, Block.ofOctets?_toOctets] at this
        exact hsum (Option.some.inj this)
      cases he
      rw [← digestOf_of_starts hstarts, ← carried_of_starts hstarts]
      exact ⟨.checksum hne, hthree⟩

/-- Octets are refused for the first reason that applies, and a header alone is not refused. -/
theorem firstFault_of_decode (octets : Octets) (token : Token) (e : ProtocolError)
    (he : decode octets token = .error e) : ¬ IsGreeting octets ∧ FirstFault octets token e := by
  cases hparse : Header.parse octets with
  | error e' =>
    have hsame : e' = e := by
      rw [decode, hparse] at he
      simpa using he
    subst hsame
    exact ⟨fun hgreeting => parse_ne_error_of_isGreeting octets hgreeting e' hparse,
      firstFault_of_parse octets token e' hparse⟩
  | ok h =>
    obtain ⟨rest, hstarts⟩ := (Header.parse_eq_ok_iff octets h).mp hparse
    obtain ⟨hrest, hfirst⟩ := firstFault_of_starts octets token e h rest hstarts he
    exact ⟨fun hgreeting => hrest ((isGreeting_iff_of_starts hstarts).mp hgreeting), hfirst⟩

/-- A body is read exactly from octets that carry their digest around a plain text enciphered. -/
theorem decode_eq_ok_some_iff (octets : Octets) (token : Token) (h : Header) (v : Json) :
    decode octets token = .ok ⟨h, some v⟩ ↔
      ∃ plain, h.Starts octets (token.encrypt plain) ∧
        Appliance.checksum h.fields token (token.encrypt plain) = h.checksum ∧
        Body.parse plain = .ok v := by
  constructor
  · intro hdecode
    cases hparse : Header.parse octets with
    | error e => simp [decode, hparse] at hdecode
    | ok header =>
      obtain ⟨rest, hstarts⟩ := (Header.parse_eq_ok_iff octets header).mp hparse
      rw [decode_of_starts octets token header rest hstarts] at hdecode
      split at hdecode
      · simp at hdecode
      · split at hdecode
        · rename_i hsum
          split at hdecode
          · simp at hdecode
          · rename_i plain hcipher
            rw [Token.decrypt?_eq_some_iff] at hcipher
            subst hcipher
            split at hdecode
            · simp at hdecode
            · rename_i value hplain
              simp only [Except.ok.injEq, Frame.mk.injEq, Option.some.injEq] at hdecode
              obtain ⟨rfl, rfl⟩ := hdecode
              exact ⟨plain, hstarts, hsum, hplain⟩
        · simp at hdecode
  · rintro ⟨plain, hstarts, hsum, hplain⟩
    have hne : token.encrypt plain ≠ [] := by
      intro hnil
      have := congrArg List.length hnil
      rw [Token.length_encrypt, List.length_nil] at this
      omega
    rw [decode_of_starts octets token h _ hstarts, if_neg hne, if_pos hsum, Token.decrypt?_encrypt]
    dsimp only
    rw [hplain]

/-- No body is read exactly where there is a header alone, whatever the token. -/
theorem decode_eq_ok_none_iff (octets : Octets) (token : Token) (h : Header) :
    decode octets token = .ok ⟨h, none⟩ ↔ IsGreeting octets ∧ Header.parse octets = .ok h := by
  constructor
  · intro hdecode
    cases hparse : Header.parse octets with
    | error e => simp [decode, hparse] at hdecode
    | ok header =>
      obtain ⟨rest, hstarts⟩ := (Header.parse_eq_ok_iff octets header).mp hparse
      rw [decode_of_starts octets token header rest hstarts] at hdecode
      rw [isGreeting_iff_of_starts hstarts]
      split at hdecode
      · rename_i hrest
        simp only [Except.ok.injEq, Frame.mk.injEq, and_true] at hdecode
        exact ⟨hrest, by rw [hdecode]⟩
      · split at hdecode
        · split at hdecode
          · simp at hdecode
          · split at hdecode <;> simp at hdecode
        · simp at hdecode
  · rintro ⟨hgreeting, hparse⟩
    obtain ⟨rest, hstarts⟩ := (Header.parse_eq_ok_iff octets h).mp hparse
    rw [decode_of_starts octets token h rest hstarts,
      if_pos ((isGreeting_iff_of_starts hstarts).mp hgreeting)]

/-- A header alone is read, and what is read is its header. -/
theorem exists_parse_of_isGreeting (octets : Octets) (h : IsGreeting octets) :
    ∃ header, Header.parse octets = .ok header := by
  cases hparse : Header.parse octets with
  | error e => exact absurd hparse (parse_ne_error_of_isGreeting octets h e)
  | ok header => exact ⟨header, rfl⟩

/-- Octets from which a body is read are refused for no reason. -/
theorem not_fault_of_decode (octets : Octets) (token : Token) (h : Header) (v : Json)
    (hdecode : decode octets token = .ok ⟨h, some v⟩) (e : ProtocolError) :
    ¬ Fault octets token e := by
  obtain ⟨plain, hstarts, hsum, hplain⟩ := (decode_eq_ok_some_iff octets token h v).mp hdecode
  have hdrop : octets.drop 32 = token.encrypt plain := hstarts.drop_size
  have hdigest : digestOf octets token = carried octets := by
    rw [digestOf_of_starts hstarts, carried_of_starts hstarts, hsum]
  intro hfault
  have hfour := hfault.four_le_precedence (three_le_precedence_of_starts hstarts token e hfault)
    hdigest
  have hfive := hfault.five_le_precedence hfour plain hdrop
  cases hfault with
  | tooShort _ | magic _ _ _ | length _ | checksum _ | cipher _ => simp [precedence] at hfive
  | payload plain' error hcipher hrefused =>
    have hsame : plain' = plain := by
      have hread := (token.decrypt?_eq_some_iff _ plain').mpr (hdrop.symm.trans hcipher)
      rw [Token.decrypt?_encrypt] at hread
      exact (Option.some.inj hread).symm
    rw [hsame, hplain] at hrefused
    cases hrefused

/-- The first sixteen octets of a frame spell the fields of its header. -/
theorem leading_eq_fields (h : Header) (bodyLength : Nat)
    (hlength : h.length.toNat = 32 + bodyLength) :
    leading bodyLength h.unknown h.deviceId h.timestamp = h.fields.toOctets := by
  rw [leading, ← hlength]
  rfl

/-- A header with the digest in it starts a frame exactly when the frame is assembled so. -/
theorem starts_and_checksum_iff (octets : Octets) (token : Token) (h : Header)
    (cipher : Octets) :
    (h.Starts octets cipher ∧ Appliance.checksum h.fields token cipher = h.checksum) ↔
      ∃ unknown deviceId timestamp, 32 + cipher.length ≤ 65535 ∧
        octets = assembled unknown deviceId timestamp token cipher ∧
        h = ⟨UInt16.ofNat (32 + cipher.length), unknown, deviceId, timestamp,
          digest unknown deviceId timestamp token cipher⟩ := by
  constructor
  · rintro ⟨hstarts, hsum⟩
    have hlength : h.length.toNat = 32 + cipher.length := hstarts.length_eq
    have hfits := h.length.toNat_lt
    have hlead := leading_eq_fields h cipher.length hlength
    have hdigest : digest h.unknown h.deviceId h.timestamp token cipher = h.checksum := by
      rw [digest, hlead, ← hsum]
      rfl
    refine ⟨h.unknown, h.deviceId, h.timestamp, by omega, ?_, ?_⟩
    · rw [assembled, hlead, hdigest, List.append_assoc]
      exact hstarts.split_eq
    · rw [← hlength, UInt16.ofNat_toNat, hdigest]
  · rintro ⟨unknown, deviceId, timestamp, hfits, hoctets, hh⟩
    have hlength : h.length.toNat = 32 + cipher.length := by
      rw [hh, UInt16.toNat_ofNat']
      omega
    have hlead := leading_eq_fields h cipher.length hlength
    have hsum : Appliance.checksum h.fields token cipher = h.checksum := by
      rw [Appliance.checksum, ← hlead, hh]
      rfl
    refine ⟨⟨?_, hlength⟩, hsum⟩
    rw [hoctets, Header.toOctets, ← hlead, hh]
    rfl

/-- The first reason that applies is the one given, unless octets are a header alone. -/
theorem decode_eq_error_iff (octets : Octets) (token : Token) (e : ProtocolError) :
    decode octets token = .error e ↔ ¬ IsGreeting octets ∧ FirstFault octets token e := by
  constructor
  · exact firstFault_of_decode octets token e
  · rintro ⟨hgreeting, hfirst⟩
    cases hdecode : decode octets token with
    | error e' =>
      have hfirst' := (firstFault_of_decode octets token e' hdecode).2
      rw [FirstFault.unique octets token e' e hfirst' hfirst]
    | ok frame =>
      obtain ⟨h, body⟩ := frame
      cases body with
      | none => exact absurd ((decode_eq_ok_none_iff octets token h).mp hdecode).1 hgreeting
      | some v => exact absurd hfirst.1 (not_fault_of_decode octets token h v hdecode e)

/-- Reasons that say something of the body are given only where the digest holds. -/
theorem digestOf_eq_carried_of_decode (octets : Octets) (token : Token) (e : ProtocolError)
    (hdecode : decode octets token = .error e) (he : 4 ≤ precedence e) :
    digestOf octets token = carried octets := by
  by_contra hne
  have hle : precedence e ≤ 3 :=
    (firstFault_of_decode octets token e hdecode).2.2 _ (.checksum hne)
  omega

/-- Every reason is either one of a malformed frame or one of a frame that is not authentic. -/
theorem Fault.isMalformed_eq (octets : Octets) (token : Token) (e : ProtocolError)
    (h : Fault octets token e) : e.isMalformed = !e.isIntegrityFailure := by
  cases h <;> rfl

/-- A reader of frames accepts a header alone under any token, and a body exactly from a frame
assembled around a plain text enciphered; all else it refuses for the first reason that applies,
which is about the body only if the digest holds, and which says either that the frame is malformed
or that it is not authentic. -/
theorem decode_accepts_exactly (octets : Octets) (token : Token) :
    ((∃ h, decode octets token = .ok ⟨h, none⟩) ↔ IsGreeting octets) ∧
      (IsGreeting octets → ∀ other, decode octets other = decode octets token) ∧
      (∀ h v, decode octets token = .ok ⟨h, some v⟩ ↔
        ∃ unknown deviceId timestamp plain, Body.parse plain = .ok v ∧
          32 + (token.encrypt plain).length ≤ 65535 ∧
          octets = assembled unknown deviceId timestamp token (token.encrypt plain) ∧
          h = ⟨UInt16.ofNat (32 + (token.encrypt plain).length), unknown, deviceId, timestamp,
            digest unknown deviceId timestamp token (token.encrypt plain)⟩) ∧
      (∀ e, decode octets token = .error e ↔ ¬ IsGreeting octets ∧ FirstFault octets token e) ∧
      (∀ e, decode octets token = .error e → (e = .decrypt ∨ ∃ error, e = .payload error) →
        digestOf octets token = carried octets) ∧
      (∀ e, decode octets token = .error e → e.isMalformed = !e.isIntegrityFailure) := by
  refine ⟨?_, ?_, ?_, decode_eq_error_iff octets token, ?_, ?_⟩
  · constructor
    · rintro ⟨h, hdecode⟩
      exact ((decode_eq_ok_none_iff octets token h).mp hdecode).1
    · intro hgreeting
      obtain ⟨h, hparse⟩ := exists_parse_of_isGreeting octets hgreeting
      exact ⟨h, (decode_eq_ok_none_iff octets token h).mpr ⟨hgreeting, hparse⟩⟩
  · intro hgreeting other
    obtain ⟨h, hparse⟩ := exists_parse_of_isGreeting octets hgreeting
    rw [(decode_eq_ok_none_iff octets token h).mpr ⟨hgreeting, hparse⟩,
      (decode_eq_ok_none_iff octets other h).mpr ⟨hgreeting, hparse⟩]
  · intro h v
    rw [decode_eq_ok_some_iff]
    constructor
    · rintro ⟨plain, hstarts, hsum, hplain⟩
      obtain ⟨unknown, deviceId, timestamp, hfits, hoctets, hh⟩ :=
        (starts_and_checksum_iff octets token h _).mp ⟨hstarts, hsum⟩
      exact ⟨unknown, deviceId, timestamp, plain, hplain, hfits, hoctets, hh⟩
    · rintro ⟨unknown, deviceId, timestamp, plain, hplain, hfits, hoctets, hh⟩
      obtain ⟨hstarts, hsum⟩ := (starts_and_checksum_iff octets token h _).mpr
        ⟨unknown, deviceId, timestamp, hfits, hoctets, hh⟩
      exact ⟨plain, hstarts, hsum, hplain⟩
  · intro e hdecode he
    refine digestOf_eq_carried_of_decode octets token e hdecode ?_
    rcases he with rfl | ⟨error, rfl⟩ <;> simp [precedence]
  · intro e hdecode
    exact (firstFault_of_decode octets token e hdecode).2.1.isMalformed_eq

end Frame

end Appliance
