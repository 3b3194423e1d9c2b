import Appliance.Proofs.BodyCipher

/-!
# Which octets are cipher texts

Deciphering a chain combines every block deciphered with the block in front of it in the cipher
text, the first one with the initial vector. Octets are refused for three reasons: there are none,
they are no whole blocks, or what the chain gives does not end in a padding. All others are the
cipher text of exactly one text, and every text has exactly one cipher text.

A padding is told by its end alone. That the text before it can be anything is what makes the
refusals exact: no other test is made.
-/

namespace Appliance

/-! ## Paddings -/

namespace Padding

/-- Octets end in some number of octets of that value, one to sixteen. -/
def IsPadded (octets : Octets) : Prop :=
  ∃ n, 1 ≤ n ∧ n ≤ 16 ∧ List.replicate n (UInt8.ofNat n) <:+ octets

/-- There is no padding to take off exactly where octets do not end in one. -/
theorem strip?_eq_none_iff (octets : Octets) : strip? octets = none ↔ ¬ IsPadded octets := by
  constructor
  · intro hnone hpadded
    obtain ⟨n, hpos, hle, text, rfl⟩ := hpadded
    rw [strip?_append_replicate text n hpos hle] at hnone
    cases hnone
  · intro hpadded
    cases hstrip : strip? octets with
    | none => rfl
    | some text =>
      obtain ⟨n, hpos, hle, hoctets⟩ := exists_replicate_of_strip? octets text hstrip
      exact absurd ⟨n, hpos, hle, text, hoctets.symm⟩ hpadded

end Padding

/-! ## Chains deciphered -/

namespace Cbc

open Aes (Schedule)

/-- The blocks of a chain deciphered, each combined with the cipher block in front of it and the
first one with an initial vector. -/
def deciphered (keys : Schedule) (iv : Block) (cipher : List Block) : List Block :=
  List.zipWith (fun c previous => (keys.decipher c).xor previous) cipher (iv :: cipher)

/-- Deciphering a chain block by block needs no more than the cipher block before. -/
theorem unchain_eq_deciphered (keys : Schedule) (iv : Block) (cipher : List Block) :
    unchain keys iv [] cipher = deciphered keys iv cipher := by
  induction cipher generalizing iv with
  | nil => rfl
  | cons c cs ih =>
    rw [unchain, unchain_eq_append, ih]
    rfl

/-- Octets are cut into blocks exactly if they are whole blocks. -/
theorem blocks?_eq_none_iff (octets : Octets) : blocks? octets = none ↔ octets.length % 16 ≠ 0 := by
  constructor
  · intro hnone hwhole
    obtain ⟨bs, hbs⟩ := exists_flatten_eq octets hwhole
    rw [(blocks?_eq_some_iff octets bs).mpr hbs] at hnone
    cases hnone
  · intro hpart
    cases hblocks : blocks? octets with
    | none => rfl
    | some bs =>
      rw [blocks?_eq_some_iff] at hblocks
      rw [hblocks, length_flatten] at hpart
      omega

/-- Octets are refused exactly if they are no whole blocks or what the chain gives ends in no
padding. -/
theorem decrypt?_eq_none_iff (key iv : Block) (cipher : Octets) :
    decrypt? key iv cipher = none ↔
      cipher.length % 16 ≠ 0 ∨
        ∃ bs, cipher = flatten bs ∧
          ¬ Padding.IsPadded (flatten (deciphered (Schedule.ofKey key) iv bs)) := by
  unfold decrypt?
  cases hblocks : blocks? cipher with
  | none => simp [(blocks?_eq_none_iff cipher).mp hblocks]
  | some bs =>
    have hcipher := (blocks?_eq_some_iff cipher bs).mp hblocks
    have hwhole : cipher.length % 16 = 0 := by
      rw [hcipher, length_flatten]
      exact Nat.mul_mod_right 16 _
    dsimp only
    rw [Padding.strip?_eq_none_iff, unchain_eq_deciphered]
    constructor
    · intro hunpadded
      exact Or.inr ⟨bs, hcipher, hunpadded⟩
    · intro hreason
      obtain hpart | ⟨cs, hcs, hunpadded⟩ := hreason
      · exact absurd hwhole hpart
      · rw [(blocks?_eq_some_iff cipher cs).mpr hcs] at hblocks
        cases hblocks
        exact hunpadded

end Cbc

/-! ## Bodies under a token -/

namespace Token

/-- Enciphering under a token takes every text to a cipher text of one block more than it fills, from
which deciphering leads back. Whatever is deciphered to a text is that text enciphered, so that the
text is one to sixteen octets shorter. Octets are refused exactly if there are none, if they are no
whole blocks, or if the chain deciphered does not end in one to sixteen octets of their number. -/
theorem encrypt_onto_cipher_texts (t : Token) :
    (∀ plain, (t.encrypt plain).length = 16 * (plain.length / 16 + 1) ∧
      t.decrypt? (t.encrypt plain) = some plain) ∧
    (∀ cipher plain, t.decrypt? cipher = some plain →
      t.encrypt plain = cipher ∧ cipher.length ≤ plain.length + 16 ∧
        plain.length + 1 ≤ cipher.length) ∧
    ∀ cipher, t.decrypt? cipher = none ↔
      cipher = [] ∨ cipher.length % 16 ≠ 0 ∨
        ∃ bs, cipher = Cbc.flatten bs ∧ ∀ n, 1 ≤ n → n ≤ 16 →
          ¬ List.replicate n (UInt8.ofNat n) <:+
            Cbc.flatten (Cbc.deciphered (Aes.Schedule.ofKey t.key) t.iv bs) := by
  refine ⟨?_, ?_, ?_⟩
  · intro plain
    exact ⟨t.length_encrypt plain, t.decrypt?_encrypt plain⟩
  · intro cipher plain hplain
    have hcipher := (t.decrypt?_eq_some_iff cipher plain).mp hplain
    have hlength := t.length_encrypt plain
    rw [← hcipher] at hlength
    refine ⟨hcipher.symm, ?_, ?_⟩ <;> omega
  · intro cipher
    have hunpadded (octets : Octets) : ¬ Padding.IsPadded octets ↔
        ∀ n, 1 ≤ n → n ≤ 16 → ¬ List.replicate n (UInt8.ofNat n) <:+ octets := by
      simp [Padding.IsPadded]
    have hrefused := Cbc.decrypt?_eq_none_iff t.key t.iv cipher
    simp only [hunpadded] at hrefused
    constructor
    · intro hnone
      exact Or.inr (hrefused.mp hnone)
    · intro hreason
      obtain rfl | hreason := hreason
      · rfl
      · exact hrefused.mpr hreason

end Token

end Appliance
