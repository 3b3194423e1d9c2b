import Appliance.Cipher.Aes
import Mathlib.Data.FinEnum
import Mathlib.Data.LawfulXor.Basic

/-!
# The block cipher is a bijection

Every step of a round has an inverse, in both directions: the boxes undo each other, rows turn back,
and the two matrices of the column step are inverse to each other. The boxes are compared octet by
octet. The columns are not: doubling is linear over exclusive or, so that it is enough to look at
columns of one octet.

From the steps the rounds follow by recursion over the round keys, whatever these are. Nothing is
said about secrecy.
-/

namespace Appliance

/-- Combining a word with another one twice gives it back. -/
@[simp] theorem Word.xor_xor_self (v w : Word) : (v.xor w).xor w = v := by simp [xor]

/-- Combining a block with another one twice gives it back. -/
@[simp] theorem Block.xor_xor_self (x y : Block) : (x.xor y).xor y = x := by simp [xor]

/-- Two functions that undo each other on octets do so on blocks. -/
theorem Block.map_map_self (f g : UInt8 → UInt8) (h : ∀ x, g (f x) = x) (b : Block) :
    (b.map f).map g = b := by
  simp [map, Word.map, h]

namespace Aes

/-! ## The steps of a round -/

/-- The inverse box undoes the substitution box. -/
theorem unsubstitute_substitute (x : UInt8) : unsubstitute (substitute x) = x := by
  revert x
  decide +kernel

/-- The substitution box undoes the inverse box, as there are finitely many octets. -/
theorem substitute_unsubstitute (x : UInt8) : substitute (unsubstitute x) = x := by
  have hleft : Function.LeftInverse unsubstitute substitute := unsubstitute_substitute
  have hsurjective := Finite.injective_iff_surjective.mp hleft.injective
  exact hleft.rightInverse_of_surjective hsurjective x

/-- Rows turned to the left and back are as before. -/
@[simp] theorem unshiftRows_shiftRows (s : Block) : unshiftRows (shiftRows s) = s := rfl

/-- Rows turned to the right and back are as before. -/
@[simp] theorem shiftRows_unshiftRows (s : Block) : shiftRows (unshiftRows s) = s := rfl

/-- An octet is below 128 exactly when its highest bit is clear. -/
private theorem lt_iff_msb (x : UInt8) : x < 128 ↔ x.toBitVec.msb = false := by
  rw [BitVec.msb_eq_false_iff_two_mul_lt, UInt8.lt_iff_toNat_lt]
  change x.toNat < 128 ↔ 2 * x.toNat < 256
  omega

/-- Doubling is linear over exclusive or. -/
theorem double_xor (x y : UInt8) : double (x ^^^ y) = double x ^^^ double y := by
  have hcarry (z : UInt8) : double z = (z <<< 1) ^^^ (if z.toBitVec.msb then 0x1b else 0) := by
    unfold double
    cases h : z.toBitVec.msb <;> simp [lt_iff_msb, h]
  have hpairs (a b c d : UInt8) : (a ^^^ b) ^^^ (c ^^^ d) = (a ^^^ c) ^^^ (b ^^^ d) := by ac_rfl
  rw [hcarry, hcarry, hcarry, UInt8.shiftLeft_xor, UInt8.toBitVec_xor, BitVec.msb_xor,
    hpairs (x <<< 1)]
  cases x.toBitVec.msb <;> cases y.toBitVec.msb <;> rfl

/-- Nothing doubled is nothing. -/
@[simp] theorem double_zero : double 0 = 0 := rfl

/-- Mixing a column is linear over exclusive or. -/
theorem mixColumn_xor (v w : Word) : mixColumn (v.xor w) = (mixColumn v).xor (mixColumn w) := by
  simp only [mixColumn, Word.xor, double_xor, Word.mk.injEq]
  refine ⟨?_, ?_, ?_, ?_⟩ <;> ac_rfl

/-- Unmixing a column is linear over exclusive or. -/
theorem unmixColumn_xor (v w : Word) :
    unmixColumn (v.xor w) = (unmixColumn v).xor (unmixColumn w) := by
  simp only [unmixColumn, Word.xor, double_xor, Word.mk.injEq]
  refine ⟨?_, ?_, ?_, ?_⟩ <;> ac_rfl

/-- A linear function that keeps the words of one octet keeps every word. -/
theorem eq_self_of_linear (f : Word → Word) (hxor : ∀ v w, f (v.xor w) = (f v).xor (f w))
    (ha : ∀ x, f ⟨x, 0, 0, 0⟩ = ⟨x, 0, 0, 0⟩) (hb : ∀ x, f ⟨0, x, 0, 0⟩ = ⟨0, x, 0, 0⟩)
    (hc : ∀ x, f ⟨0, 0, x, 0⟩ = ⟨0, 0, x, 0⟩) (hd : ∀ x, f ⟨0, 0, 0, x⟩ = ⟨0, 0, 0, x⟩)
    (w : Word) : f w = w := by
  have hsplit : w = (((⟨w.a, 0, 0, 0⟩ : Word).xor ⟨0, w.b, 0, 0⟩).xor ⟨0, 0, w.c, 0⟩).xor
      ⟨0, 0, 0, w.d⟩ := by
    simp [Word.xor]
  rw [hsplit, hxor, hxor, hxor, ha, hb, hc, hd]

private theorem xor_left_comm (x y z : UInt8) : x ^^^ (y ^^^ z) = y ^^^ (x ^^^ z) := by ac_rfl

/-- Unmixing undoes mixing: the products of the two matrices cancel power by power of x. -/
@[simp] theorem unmixColumn_mixColumn (w : Word) : unmixColumn (mixColumn w) = w := by
  refine eq_self_of_linear (fun w => unmixColumn (mixColumn w)) ?_ ?_ ?_ ?_ ?_ w
  · intro v w
    simp only [mixColumn_xor, unmixColumn_xor]
  all_goals
    intro x
    simp only [unmixColumn, mixColumn, double_xor, double_zero, xor_zero, zero_xor]
    simp only [UInt8.xor_assoc, UInt8.xor_comm, xor_left_comm, xor_cancel_left, UInt8.xor_self,
      xor_zero]

/-- Mixing undoes unmixing. -/
@[simp] theorem mixColumn_unmixColumn (w : Word) : mixColumn (unmixColumn w) = w := by
  refine eq_self_of_linear (fun w => mixColumn (unmixColumn w)) ?_ ?_ ?_ ?_ ?_ w
  · intro v w
    simp only [mixColumn_xor, unmixColumn_xor]
  all_goals
    intro x
    simp only [unmixColumn, mixColumn, double_xor, double_zero, xor_zero, zero_xor]
    simp only [UInt8.xor_assoc, UInt8.xor_comm, xor_left_comm, xor_cancel_left, UInt8.xor_self,
      xor_zero]

@[simp] theorem unmixColumns_mixColumns (s : Block) : unmixColumns (mixColumns s) = s := by
  simp [unmixColumns, mixColumns]

@[simp] theorem mixColumns_unmixColumns (s : Block) : mixColumns (unmixColumns s) = s := by
  simp [unmixColumns, mixColumns]

/-! ## The rounds -/

/-- A round without the key, which substitutes before it moves octets, is undone by its parts. -/
theorem unsubstitute_unshiftRows (s : Block) :
    (unshiftRows (shiftRows (s.map substitute))).map unsubstitute = s := by
  rw [unshiftRows_shiftRows]
  exact Block.map_map_self _ _ unsubstitute_substitute s

/-- The parts of a round that undo it are undone by the round without the key. -/
theorem shiftRows_substitute (s : Block) :
    shiftRows (((unshiftRows s).map unsubstitute).map substitute) = s := by
  rw [Block.map_map_self _ _ substitute_unsubstitute, shiftRows_unshiftRows]

private theorem undoRounds_singleton (k s : Block) :
    undoRounds [k] s = (unshiftRows (s.xor k)).map unsubstitute := rfl

private theorem undoRounds_cons_cons (k k' : Block) (ks : List Block) (s : Block) :
    undoRounds (k :: k' :: ks) s =
      (unshiftRows (unmixColumns ((undoRounds (k' :: ks) s).xor k))).map unsubstitute := rfl

private theorem runRounds_cons_cons (k k' : Block) (ks : List Block) (s : Block) :
    runRounds (k :: k' :: ks) s =
      runRounds (k' :: ks) ((mixColumns (shiftRows (s.map substitute))).xor k) := rfl

/-- Undoing the rounds leads back to the state before them. -/
theorem undoRounds_runRounds (ks : List Block) (s : Block) :
    undoRounds ks (runRounds ks s) = s := by
  induction ks generalizing s with
  | nil => rfl
  | cons k ks ih =>
    cases ks with
    | nil =>
      rw [runRounds, undoRounds_singleton, Block.xor_xor_self, unsubstitute_unshiftRows]
    | cons k' ks =>
      rw [runRounds_cons_cons, undoRounds_cons_cons, ih, Block.xor_xor_self,
        unmixColumns_mixColumns, unsubstitute_unshiftRows]

/-- Running the rounds leads back to the state before they were undone. -/
theorem runRounds_undoRounds (ks : List Block) (s : Block) :
    runRounds ks (undoRounds ks s) = s := by
  induction ks generalizing s with
  | nil => rfl
  | cons k ks ih =>
    cases ks with
    | nil =>
      rw [undoRounds_singleton, runRounds, shiftRows_substitute, Block.xor_xor_self]
    | cons k' ks =>
      rw [undoRounds_cons_cons, runRounds_cons_cons, shiftRows_substitute,
        mixColumns_unmixColumns, Block.xor_xor_self, ih]

/-- Deciphering undoes enciphering, under any key schedule. -/
@[simp] theorem Schedule.decipher_encipher (keys : Schedule) (s : Block) :
    keys.decipher (keys.encipher s) = s := by
  rw [decipher, encipher, undoRounds_runRounds, Block.xor_xor_self]

/-- Enciphering undoes deciphering, under any key schedule. -/
@[simp] theorem Schedule.encipher_decipher (keys : Schedule) (s : Block) :
    keys.encipher (keys.decipher s) = s := by
  rw [decipher, encipher, Block.xor_xor_self, runRounds_undoRounds]

end Aes

end Appliance
