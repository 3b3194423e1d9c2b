import Appliance.Proofs.BlockCipher
import Appliance.Token

/-!
# The body cipher is a bijection onto its cipher texts

Padding takes a text to whole blocks and chaining takes blocks to blocks; both have an inverse, so
that a cipher text is deciphered to a text exactly when it is the text enciphered. Both directions
matter: the one says that nothing is lost, the other one that a text has no second cipher text,
which holds because every octet of the padding is checked.

Key and initial vector are those of a token, but nothing depends on how they come about.
-/

namespace Appliance

/-! ## Padding -/

namespace Padding

/-- One to sixteen octets are added. -/
theorem count_bounds (length : Nat) : 1 ≤ count length ∧ count length ≤ 16 := by
  unfold count
  omega

/-- A padded text consists of whole blocks, one more than the text fills. -/
theorem length_add (text : Octets) : (add text).length = 16 * (text.length / 16 + 1) := by
  simp only [add, count, List.length_append, List.length_replicate]
  omega

/-- A padding is taken off from wherever it starts. -/
theorem strip?_append_replicate (text : Octets) (n : Nat) (hpos : 1 ≤ n) (hle : n ≤ 16) :
    strip? (text ++ List.replicate n (UInt8.ofNat n)) = some text := by
  obtain ⟨m, rfl⟩ := Nat.exists_eq_add_of_le' hpos
  have hvalue : (UInt8.ofNat (m + 1)).toNat = m + 1 := by
    rw [UInt8.toNat_ofNat']
    omega
  have hreverse : (text ++ List.replicate (m + 1) (UInt8.ofNat (m + 1))).reverse =
      UInt8.ofNat (m + 1) :: (List.replicate m (UInt8.ofNat (m + 1)) ++ text.reverse) := by
    rw [List.reverse_append, List.reverse_replicate, List.replicate_succ, List.cons_append]
  have hlength : (text ++ List.replicate (m + 1) (UInt8.ofNat (m + 1))).length - (m + 1) =
      text.length := by
    rw [List.length_append, List.length_replicate, Nat.add_sub_cancel]
  unfold strip?
  rw [hreverse]
  dsimp only
  rw [hvalue, hlength, List.drop_left, List.take_left, if_pos]
  refine ⟨hpos, hle, ?_, rfl⟩
  rw [List.length_append, List.length_replicate]
  exact Nat.le_add_left _ _

/-- Octets that have a padding taken off end in it. -/
theorem exists_replicate_of_strip? (octets text : Octets) (h : strip? octets = some text) :
    ∃ n, 1 ≤ n ∧ n ≤ 16 ∧ octets = text ++ List.replicate n (UInt8.ofNat n) := by
  unfold strip? at h
  split at h
  · cases h
  · rename_i last before hreverse
    dsimp only at h
    split at h
    · rename_i hpadding
      obtain ⟨hpos, hle, -, htail⟩ := hpadding
      cases h
      refine ⟨last.toNat, hpos, hle, ?_⟩
      rw [UInt8.ofNat_toNat, ← htail, List.take_append_drop]
    · cases h

/-- Taking the padding off gives the text back. -/
theorem strip?_add (text : Octets) : strip? (add text) = some text :=
  strip?_append_replicate text (count text.length) (count_bounds text.length).1
    (count_bounds text.length).2

/-- What has its padding taken off was padded, if it consists of whole blocks. -/
theorem eq_add_of_strip? (padded text : Octets) (hblocks : padded.length % 16 = 0)
    (h : strip? padded = some text) : padded = add text := by
  obtain ⟨n, hpos, hle, rfl⟩ := exists_replicate_of_strip? padded text h
  have hcount : count text.length = n := by
    rw [List.length_append, List.length_replicate] at hblocks
    unfold count
    omega
  rw [add, hcount]

/-- The octets that can have their padding taken off are, in whole blocks, the padded texts. -/
theorem strip?_eq_some_iff (padded text : Octets) (hblocks : padded.length % 16 = 0) :
    strip? padded = some text ↔ padded = add text :=
  ⟨eq_add_of_strip? padded text hblocks, fun h => h ▸ strip?_add text⟩

end Padding

/-! ## Chained blocks -/

namespace Cbc

open Aes (Schedule)

/-- A block joined to others stands in front of them. -/
@[simp] theorem flatten_cons (b : Block) (bs : List Block) :
    flatten (b :: bs) = b.toOctets ++ flatten bs := rfl

/-- Blocks fill sixteen octets each. -/
theorem length_flatten (bs : List Block) : (flatten bs).length = 16 * bs.length := by
  induction bs with
  | nil => rfl
  | cons b bs ih =>
    rw [flatten_cons, List.length_append, ih, Block.length_toOctets, List.length_cons]
    omega

/-- Blocks joined are cut into the same blocks again, behind those already cut. -/
theorem blocksFrom_flatten (n : Nat) (done bs : List Block) (hn : bs.length ≤ n) :
    blocksFrom n done (flatten bs) = some (done.reverse ++ bs) := by
  induction bs generalizing n done with
  | nil => simp [blocksFrom, flatten]
  | cons b bs ih =>
    obtain ⟨n, rfl⟩ : ∃ m, n = m + 1 := ⟨n - 1, by rw [List.length_cons] at hn; omega⟩
    rw [flatten_cons, blocksFrom, Block.take?_toOctets_append]
    · dsimp only
      rw [ih n (b :: done) (by simpa using hn)]
      simp
    · intro h
      have := congrArg List.length h
      simp at this

/-- What is cut into blocks consists of them, behind those already cut. -/
theorem eq_flatten_of_blocksFrom (n : Nat) (done bs : List Block) (xs : Octets)
    (h : blocksFrom n done xs = some bs) :
    ∃ more, xs = flatten more ∧ bs = done.reverse ++ more := by
  fun_induction blocksFrom n done xs with
  | case1 n done =>
    simp only [Option.some.injEq] at h
    exact ⟨[], rfl, by simp [h]⟩
  | case2 => simp at h
  | case3 => simp at h
  | case4 done xs hne n b rest hblock ih =>
    rw [Block.take?_eq_some_iff] at hblock
    obtain ⟨more, rfl, rfl⟩ := ih h
    exact ⟨b :: more, hblock, by simp⟩

/-- Some octets are cut into blocks exactly when they are these blocks joined. -/
theorem blocks?_eq_some_iff (xs : Octets) (bs : List Block) :
    blocks? xs = some bs ↔ xs = flatten bs := by
  constructor
  · intro h
    obtain ⟨more, hxs, hbs⟩ := eq_flatten_of_blocksFrom _ _ _ _ h
    rw [hxs, hbs, List.reverse_nil, List.nil_append]
  · rintro rfl
    rw [blocks?, blocksFrom_flatten _ _ _ (by rw [length_flatten]; omega)]
    rfl

/-- Octets in multiples of sixteen can be cut into blocks. -/
theorem exists_flatten_eq (xs : Octets) (h : xs.length % 16 = 0) : ∃ bs, xs = flatten bs := by
  obtain ⟨n, hn⟩ : ∃ n, xs.length = 16 * n := ⟨xs.length / 16, by omega⟩
  induction n generalizing xs with
  | zero => exact ⟨[], List.length_eq_zero_iff.mp (by omega)⟩
  | succ n ih =>
    cases hblock : Block.take? xs with
    | none =>
      have := Block.take?_eq_none_iff.mp hblock
      omega
    | some p =>
      obtain ⟨b, rest⟩ := p
      rw [Block.take?_eq_some_iff] at hblock
      have hlength : xs.length = 16 + rest.length := by
        rw [hblock, List.length_append, Block.length_toOctets]
      obtain ⟨bs, rfl⟩ := ih rest (by omega) (by omega)
      exact ⟨b :: bs, hblock⟩

/-- The blocks made so far only stand in front of those still made. -/
theorem chain_eq_append (keys : Schedule) (previous : Block) (done bs : List Block) :
    chain keys previous done bs = done.reverse ++ chain keys previous [] bs := by
  induction bs generalizing previous done with
  | nil => simp [chain]
  | cons b bs ih =>
    rw [chain, ih, chain, ih _ [_]]
    simp

/-- The blocks read so far only stand in front of those still read. -/
theorem unchain_eq_append (keys : Schedule) (previous : Block) (done cs : List Block) :
    unchain keys previous done cs = done.reverse ++ unchain keys previous [] cs := by
  induction cs generalizing previous done with
  | nil => simp [unchain]
  | cons c cs ih =>
    rw [unchain, ih, unchain, ih _ [_]]
    simp

/-- Chaining keeps the number of blocks. -/
theorem length_chain (keys : Schedule) (previous : Block) (bs : List Block) :
    (chain keys previous [] bs).length = bs.length := by
  induction bs generalizing previous with
  | nil => rfl
  | cons b bs ih =>
    rw [chain, chain_eq_append]
    simp [ih]

/-- Deciphering a chain undoes enciphering it. -/
theorem unchain_chain (keys : Schedule) (previous : Block) (bs : List Block) :
    unchain keys previous [] (chain keys previous [] bs) = bs := by
  induction bs generalizing previous with
  | nil => rfl
  | cons b bs ih =>
    rw [chain, chain_eq_append, List.reverse_singleton, List.singleton_append, unchain,
      unchain_eq_append, ih, Schedule.decipher_encipher, Block.xor_xor_self]
    rfl

/-- Enciphering a chain undoes deciphering it. -/
theorem chain_unchain (keys : Schedule) (previous : Block) (cs : List Block) :
    chain keys previous [] (unchain keys previous [] cs) = cs := by
  induction cs generalizing previous with
  | nil => rfl
  | cons c cs ih =>
    rw [unchain, unchain_eq_append, List.reverse_singleton, List.singleton_append, chain,
      Block.xor_xor_self, Schedule.encipher_decipher, chain_eq_append, ih]
    rfl

/-- A text enciphered is the chain of the blocks of the padded text. -/
theorem exists_encrypt_eq (key iv : Block) (text : Octets) :
    ∃ bs, Padding.add text = flatten bs ∧
      encrypt key iv text = flatten (chain (Schedule.ofKey key) iv [] bs) := by
  obtain ⟨bs, hbs⟩ := exists_flatten_eq (Padding.add text) (by rw [Padding.length_add]; omega)
  refine ⟨bs, hbs, ?_⟩
  rw [encrypt, (blocks?_eq_some_iff _ bs).mpr hbs]
  rfl

/-- A cipher text has one block more than the text fills. -/
theorem length_encrypt (key iv : Block) (text : Octets) :
    (encrypt key iv text).length = 16 * (text.length / 16 + 1) := by
  obtain ⟨bs, hbs, hcipher⟩ := exists_encrypt_eq key iv text
  have hlength := congrArg List.length hbs
  rw [Padding.length_add, length_flatten] at hlength
  rw [hcipher, length_flatten, length_chain, ← hlength]

/-- Some octets are deciphered to a text exactly when they are the text enciphered. -/
theorem decrypt?_eq_some_iff (key iv : Block) (cipher text : Octets) :
    decrypt? key iv cipher = some text ↔ cipher = encrypt key iv text := by
  obtain ⟨bs, hbs, hcipher⟩ := exists_encrypt_eq key iv text
  constructor
  · intro h
    unfold decrypt? at h
    split at h
    · simp at h
    · rename_i cs hcs
      rw [blocks?_eq_some_iff] at hcs
      rw [Padding.strip?_eq_some_iff _ _ (by rw [length_flatten]; omega), hbs] at h
      have hunchain : unchain (Schedule.ofKey key) iv [] cs = bs := by
        have := congrArg blocks? h
        rw [(blocks?_eq_some_iff _ _).mpr rfl, (blocks?_eq_some_iff _ _).mpr rfl] at this
        simpa using this
      rw [hcs, hcipher, ← hunchain, chain_unchain]
  · rintro rfl
    rw [hcipher, decrypt?, (blocks?_eq_some_iff _ _).mpr rfl]
    dsimp only
    rw [unchain_chain, ← hbs, Padding.strip?_add]

end Cbc

/-! ## Bodies under a token -/

namespace Token

/-- A body enciphered has one block more than the plain text fills. -/
theorem length_encrypt (t : Token) (plain : Octets) :
    (t.encrypt plain).length = 16 * (plain.length / 16 + 1) :=
  Cbc.length_encrypt t.key t.iv plain

/-- Some octets are deciphered to a plain text exactly when they are the plain text enciphered. -/
theorem decrypt?_eq_some_iff (t : Token) (cipher plain : Octets) :
    t.decrypt? cipher = some plain ↔ cipher = t.encrypt plain :=
  Cbc.decrypt?_eq_some_iff t.key t.iv cipher plain

/-- What is enciphered can be deciphered. -/
@[simp] theorem decrypt?_encrypt (t : Token) (plain : Octets) :
    t.decrypt? (t.encrypt plain) = some plain :=
  (t.decrypt?_eq_some_iff _ plain).mpr rfl

end Token

end Appliance
