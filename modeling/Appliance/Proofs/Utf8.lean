import Appliance.Text.Utf8

/-!
# Characters read back

What is written as UTF-8 is read back character by character: the octets of a character in front of
others are read as that character, whatever follows. The bounds on the second octet, which rule out
overlong forms and surrogates, hold of what is written because a character is no surrogate and is
written in the shortest form.
-/

namespace Appliance.Utf8

/-- The octets of no characters. -/
@[simp] theorem encode_nil : encode [] = [] := rfl

/-- The octets of a character and others. -/
@[simp] theorem encode_cons (c : Char) (cs : List Char) :
    encode (c :: cs) = String.utf8EncodeChar c ++ encode cs := List.flatMap_cons

/-- The octets of a list of characters followed by another. -/
@[simp] theorem encode_append (cs ds : List Char) : encode (cs ++ ds) = encode cs ++ encode ds :=
  List.flatMap_append

/-- The octets of a text between two characters, in front of a rest. -/
theorem encode_enclosed (opening closing : Char) (inner : List Char) (rest : Octets) :
    encode (opening :: (inner ++ [closing])) ++ rest =
      String.utf8EncodeChar opening ++
        (encode inner ++ (String.utf8EncodeChar closing ++ rest)) := by
  rw [encode_cons, encode_append, encode_cons, List.append_assoc, List.append_assoc,
    List.append_assoc]
  rfl

/-- A character has at least one octet. -/
theorem length_le_length_encode (cs : List Char) : cs.length ≤ (encode cs).length := by
  induction cs with
  | nil => exact Nat.le_refl 0
  | cons c cs ih =>
    have hpos : 0 < (String.utf8EncodeChar c).length :=
      List.length_pos_iff.mpr String.utf8EncodeChar_ne_nil
    rw [encode_cons, List.length_append, List.length_cons]
    omega

/-- A character up to the last one of seven bits is written as itself. -/
theorem utf8EncodeChar_of_lt (c : Char) (h : c.toNat < 0x80) :
    String.utf8EncodeChar c = [UInt8.ofNat c.toNat] := by
  have hle : c.val.toNat ≤ 0x7f := Nat.le_of_lt_succ h
  unfold String.utf8EncodeChar
  rw [if_pos hle]
  rfl

/-- Every octet of a character beyond seven bits is beyond seven bits. -/
theorem le_of_mem_utf8EncodeChar (c : Char) (h : 0x80 ≤ c.toNat) (x : UInt8)
    (hx : x ∈ String.utf8EncodeChar c) : 0x80 ≤ x.toNat := by
  have hval : ¬ c.val.toNat ≤ 0x7f := Nat.not_le.mpr h
  unfold String.utf8EncodeChar at hx
  rw [if_neg hval] at hx
  split at hx
  · simp only [List.mem_cons, List.not_mem_nil, or_false] at hx
    rcases hx with rfl | rfl <;> simp only [UInt8.toNat_ofNat'] <;> omega
  · split at hx
    · simp only [List.mem_cons, List.not_mem_nil, or_false] at hx
      rcases hx with rfl | rfl | rfl <;> simp only [UInt8.toNat_ofNat'] <;> omega
    · simp only [List.mem_cons, List.not_mem_nil, or_false] at hx
      rcases hx with rfl | rfl | rfl | rfl <;> simp only [UInt8.toNat_ofNat'] <;> omega

/-- An octet that continues a sequence, as a number. -/
theorem isTail_of_le (x : UInt8) (h : 0x80 ≤ x.toNat) (h' : x.toNat ≤ 0xbf) :
    isTail x = true := by
  simp only [isTail, Bool.and_eq_true, decide_eq_true_eq, UInt8.le_iff_toNat_le]
  exact ⟨h, h'⟩

/-- An octet that may be the second one, as a number: the first octets that rule out overlong
forms, surrogates and numbers beyond the last one leave fewer seconds than the others. -/
theorem isSecond_of_le (a b : UInt8) (h : 0x80 ≤ b.toNat) (h' : b.toNat ≤ 0xbf)
    (he0 : a.toNat = 0xe0 → 0xa0 ≤ b.toNat) (hed : a.toNat = 0xed → b.toNat ≤ 0x9f)
    (hf0 : a.toNat = 0xf0 → 0x90 ≤ b.toNat) (hf4 : a.toNat = 0xf4 → b.toNat ≤ 0x8f) :
    isSecond a b = true := by
  unfold isSecond
  split
  · rename_i ha
    subst ha
    simp only [Bool.and_eq_true, decide_eq_true_eq, UInt8.le_iff_toNat_le]
    exact ⟨he0 rfl, h'⟩
  split
  · rename_i ha
    subst ha
    simp only [Bool.and_eq_true, decide_eq_true_eq, UInt8.le_iff_toNat_le]
    exact ⟨h, hed rfl⟩
  split
  · rename_i ha
    subst ha
    simp only [Bool.and_eq_true, decide_eq_true_eq, UInt8.le_iff_toNat_le]
    exact ⟨hf0 rfl, h'⟩
  split
  · rename_i ha
    subst ha
    simp only [Bool.and_eq_true, decide_eq_true_eq, UInt8.le_iff_toNat_le]
    exact ⟨h, hf4 rfl⟩
  · exact isTail_of_le b h h'

section

variable {a b c d : UInt8} (rest : Octets)

/-- A character of one octet. -/
theorem next?_one (ha : a.toNat < 0x80) :
    next? (a :: rest) = some (Char.ofNat a.toNat, rest) := by
  have h80 : a < 0x80 := UInt8.lt_iff_toNat_lt.mpr ha
  cases rest <;> simp only [next?, if_pos h80]

/-- A character of two octets. -/
theorem next?_two (ha : 0xc2 ≤ a.toNat) (ha' : a.toNat < 0xe0) (hb : isTail b = true) :
    next? (a :: b :: rest) =
      some (Char.ofNat ((a.toNat - 0xc0) * 64 + (b.toNat - 0x80)), rest) := by
  have h80 : ¬ a < 0x80 := by simp only [UInt8.lt_iff_toNat_lt, UInt8.reduceToNat]; omega
  have hc2 : ¬ a < 0xc2 := by simp only [UInt8.lt_iff_toNat_lt, UInt8.reduceToNat]; omega
  have he0 : a < 0xe0 := UInt8.lt_iff_toNat_lt.mpr ha'
  rw [next?, if_neg h80, if_neg hc2, if_pos he0, if_pos hb]

/-- A character of three octets. -/
theorem next?_three (ha : 0xe0 ≤ a.toNat) (ha' : a.toNat < 0xf0) (hb : isSecond a b = true)
    (hc : isTail c = true) :
    next? (a :: b :: c :: rest) =
      some (Char.ofNat (((a.toNat - 0xe0) * 64 + (b.toNat - 0x80)) * 64 + (c.toNat - 0x80)),
        rest) := by
  have h80 : ¬ a < 0x80 := by simp only [UInt8.lt_iff_toNat_lt, UInt8.reduceToNat]; omega
  have hc2 : ¬ a < 0xc2 := by simp only [UInt8.lt_iff_toNat_lt, UInt8.reduceToNat]; omega
  have he0 : ¬ a < 0xe0 := by simp only [UInt8.lt_iff_toNat_lt, UInt8.reduceToNat]; omega
  have hf0 : a < 0xf0 := UInt8.lt_iff_toNat_lt.mpr ha'
  rw [next?, if_neg h80, if_neg hc2, if_neg he0, if_pos hf0]
  dsimp only
  rw [hb, hc]
  rfl

/-- A character of four octets. -/
theorem next?_four (ha : 0xf0 ≤ a.toNat) (ha' : a.toNat < 0xf5) (hb : isSecond a b = true)
    (hc : isTail c = true) (hd : isTail d = true) :
    next? (a :: b :: c :: d :: rest) =
      some (Char.ofNat ((((a.toNat - 0xf0) * 64 + (b.toNat - 0x80)) * 64 + (c.toNat - 0x80)) * 64
        + (d.toNat - 0x80)), rest) := by
  have h80 : ¬ a < 0x80 := by simp only [UInt8.lt_iff_toNat_lt, UInt8.reduceToNat]; omega
  have hc2 : ¬ a < 0xc2 := by simp only [UInt8.lt_iff_toNat_lt, UInt8.reduceToNat]; omega
  have he0 : ¬ a < 0xe0 := by simp only [UInt8.lt_iff_toNat_lt, UInt8.reduceToNat]; omega
  have hf0 : ¬ a < 0xf0 := by simp only [UInt8.lt_iff_toNat_lt, UInt8.reduceToNat]; omega
  have hf5 : a < 0xf5 := UInt8.lt_iff_toNat_lt.mpr ha'
  rw [next?, if_neg h80, if_neg hc2, if_neg he0, if_neg hf0, if_pos hf5]
  dsimp only
  rw [hb, hc, hd]
  rfl

end

/-- The octets of a character are read as that character, whatever follows them. -/
theorem next?_utf8EncodeChar_append (c : Char) (rest : Octets) :
    next? (String.utf8EncodeChar c ++ rest) = some (c, rest) := by
  have hvalid : c.val.toNat < 0xd800 ∨ 0xdfff < c.val.toNat ∧ c.val.toNat < 0x110000 := c.valid
  have hback : Char.ofNat c.val.toNat = c := Char.ofNat_toNat c
  unfold String.utf8EncodeChar
  dsimp only
  generalize c.val.toNat = n at hvalid hback
  -- The octets say the number again, in digits of six bits.
  have hmod (m : Nat) (hm : m < 256) : (UInt8.ofNat m).toNat = m := by
    rw [UInt8.toNat_ofNat', Nat.mod_eq_of_lt hm]
  split
  · rw [List.singleton_append, next?_one rest (by rw [hmod n (by omega)]; omega),
      hmod n (by omega), hback]
  split
  · rw [List.cons_append, List.singleton_append, next?_two rest]
    · rw [hmod _ (by omega), hmod _ (by omega), ← hback]
      exact congrArg (fun m => some (Char.ofNat m, rest)) (by omega)
    · rw [hmod _ (by omega)]; omega
    · rw [hmod _ (by omega)]; omega
    · apply isTail_of_le <;> rw [hmod _ (by omega)] <;> omega
  split
  · rw [List.cons_append, List.cons_append, List.singleton_append, next?_three rest]
    · rw [hmod _ (by omega), hmod _ (by omega), hmod _ (by omega), ← hback]
      exact congrArg (fun m => some (Char.ofNat m, rest)) (by omega)
    · rw [hmod _ (by omega)]; omega
    · rw [hmod _ (by omega)]; omega
    · apply isSecond_of_le <;> rw [hmod _ (by omega)] <;> try rw [hmod _ (by omega)]
      all_goals omega
    · apply isTail_of_le <;> rw [hmod _ (by omega)] <;> omega
  · rw [List.cons_append, List.cons_append, List.cons_append, List.singleton_append,
      next?_four rest]
    · rw [hmod _ (by omega), hmod _ (by omega), hmod _ (by omega), hmod _ (by omega), ← hback]
      exact congrArg (fun m => some (Char.ofNat m, rest)) (by omega)
    · rw [hmod _ (by omega)]; omega
    · rw [hmod _ (by omega)]; omega
    · apply isSecond_of_le <;> rw [hmod _ (by omega)] <;> try rw [hmod _ (by omega)]
      all_goals omega
    · apply isTail_of_le <;> rw [hmod _ (by omega)] <;> omega
    · apply isTail_of_le <;> rw [hmod _ (by omega)] <;> omega

/-- Characters are read behind those already read, if their number is within the bound. -/
theorem decodeFrom_encode (cs : List Char) :
    ∀ (n place : Nat) (done : List Char), cs.length ≤ n →
      decodeFrom n place done (encode cs) = .ok (done.reverse ++ cs) := by
  induction cs with
  | nil =>
    intro n place done _
    rw [encode_nil, decodeFrom, List.append_nil]
  | cons c cs ih =>
    intro n place done hn
    obtain ⟨m, rfl⟩ := Nat.exists_eq_add_of_le' (Nat.lt_of_lt_of_le (Nat.succ_pos _) hn)
    have hnext := next?_utf8EncodeChar_append c (encode cs)
    obtain ⟨x, xs, hxs⟩ := List.exists_cons_of_ne_nil
      (List.append_ne_nil_of_left_ne_nil (String.utf8EncodeChar_ne_nil (c := c)) (encode cs))
    rw [encode_cons, hxs, decodeFrom, ← hxs, hnext]
    · dsimp only
      rw [ih m _ (c :: done) (Nat.le_of_succ_le_succ hn)]
      simp
    · simp

/-- What is written is read back. -/
theorem decode_encode (cs : List Char) : decode (encode cs) = .ok cs :=
  decodeFrom_encode cs _ 0 [] (length_le_length_encode cs)

end Appliance.Utf8
