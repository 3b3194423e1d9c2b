import Appliance.Json.Reader
import Appliance.Proofs.Utf8

/-!
# Numbers and strings read back

The octets of an integer within 64 bits, and those of a string, are read as what they were written
from. An integer ends where its digits do, so that it can be read only in front of octets that do
not go on with it; in a compact text these are the ones that can follow a value.
-/

namespace Appliance.Json.Reader

/-- What can follow a value in a compact text: nothing, a comma or the end of a container. -/
inductive Follows : Octets → Prop
  | nothing : Follows []
  | comma (rest : Octets) : Follows (0x2c :: rest)
  | bracket (rest : Octets) : Follows (0x5d :: rest)
  | brace (rest : Octets) : Follows (0x7d :: rest)

/-- A number does not go on in what can follow a value. -/
theorem Follows.digitNext_eq (rest : Octets) (h : Follows rest) : digitNext rest = false := by
  cases h <;> rfl

/-! ## Integers -/

/-- A digit is written as one octet, which is read as the same digit. -/
theorem utf8EncodeChar_digit (c : Char) (h : c.isDigit = true) :
    ∃ x, String.utf8EncodeChar c = [x] ∧ isDigit x = true ∧ x.toNat = c.toNat := by
  simp only [Char.isDigit, Bool.and_eq_true, decide_eq_true_eq, ge_iff_le,
    UInt32.le_iff_toNat_le] at h
  have hlow : 48 ≤ c.toNat := h.1
  have hhigh : c.toNat ≤ 57 := h.2
  have hx : (UInt8.ofNat c.toNat).toNat = c.toNat := by
    rw [UInt8.toNat_ofNat', Nat.mod_eq_of_lt (by omega)]
  refine ⟨UInt8.ofNat c.toNat, Utf8.utf8EncodeChar_of_lt c (by omega), ?_, hx⟩
  simp only [isDigit, Bool.and_eq_true, decide_eq_true_eq, UInt8.le_iff_toNat_le, hx]
  exact ⟨hlow, hhigh⟩

/-- More digits make no number smaller. -/
theorem le_ofDigitChars (cs : List Char) (n : Nat) : n ≤ Nat.ofDigitChars 10 cs n := by
  rw [Nat.ofDigitChars_eq_ofDigitChars_zero]
  have hone : 1 ≤ 10 ^ cs.length := Nat.pow_pos (by decide)
  have := Nat.mul_le_mul_right n hone
  omega

/-- No digits are taken where none comes next. -/
theorem absorb_of_digitNext (n count : Nat) (rest : Octets) (h : digitNext rest = false) :
    absorb n count rest = (n, count, rest) := by
  cases rest with
  | nil => rfl
  | cons x rest =>
    have hx : isDigit x = false := h
    rw [absorb, hx]
    simp

/-- All digits are taken as long as the number fits. -/
theorem absorb_encode (cs : List Char) (hcs : ∀ c ∈ cs, c.isDigit = true) (rest : Octets)
    (hrest : digitNext rest = false) :
    ∀ n count, Nat.ofDigitChars 10 cs n < 18446744073709551616 →
      absorb n count (Utf8.encode cs ++ rest) =
        (Nat.ofDigitChars 10 cs n, count + cs.length, rest) := by
  induction cs with
  | nil =>
    intro n count _
    rw [Utf8.encode_nil, List.nil_append, absorb_of_digitNext n count rest hrest]
    simp
  | cons c cs ih =>
    intro n count hfits
    obtain ⟨x, hx, hdigit, hvalue⟩ := utf8EncodeChar_digit c (hcs c List.mem_cons_self)
    rw [Nat.ofDigitChars_cons, Nat.mul_comm] at hfits
    have hnext : n * 10 + (x.toNat - 0x30) < 18446744073709551616 := by
      rw [hvalue]
      exact Nat.lt_of_le_of_lt (le_ofDigitChars cs _) hfits
    rw [Utf8.encode_cons, hx, List.append_assoc, List.singleton_append, absorb, if_pos]
    · rw [ih (fun c hc => hcs c (List.mem_cons_of_mem _ hc)), hvalue, Nat.ofDigitChars_cons,
        Nat.mul_comm 10 n, List.length_cons, Nat.add_assoc, Nat.add_comm 1]
      · rfl
      · rw [hvalue]
        exact hfits
    · rw [hdigit, Bool.true_and, decide_eq_true_eq]
      exact hnext

/-- Only zero is written with a leading zero. -/
theorem eq_zero_of_toDigits (n : Nat) (cs : List Char) (h : Nat.toDigits 10 n = '0' :: cs) :
    n = 0 := by
  induction n using Nat.strongRecOn generalizing cs with
  | ind n ih =>
    rw [Nat.toDigits_eq_if (by decide)] at h
    split at h
    · rename_i hlt
      have hhead := congrArg Char.toNat (List.cons.inj h).1
      rw [Nat.toNat_digitChar_of_lt_ten hlt] at hhead
      have : '0'.toNat = 48 := rfl
      omega
    · rename_i hge
      obtain ⟨d, ds, hd⟩ := List.exists_cons_of_ne_nil (Nat.toDigits_ne_nil (n := n / 10) (b := 10))
      rw [hd, List.cons_append] at h
      rw [(List.cons.inj h).1] at hd
      have := ih (n / 10) (by omega) ds hd
      omega

/-- The digits of a number are read as that number, unless it goes on. -/
theorem unsignedNumber_toDigits (negative : Bool) (n : Nat) (rest : Octets)
    (hn : n < 18446744073709551616) (hrest : digitNext rest = false) :
    unsignedNumber negative (Utf8.encode (Nat.toDigits 10 n) ++ rest) =
      afterInteger negative n rest := by
  have hdigits (c : Char) (hc : c ∈ Nat.toDigits 10 n) : c.isDigit = true :=
    Nat.isDigit_of_mem_toDigits (by decide) (by decide) hc
  have hvalue : Nat.ofDigitChars 10 (Nat.toDigits 10 n) 0 = n := Nat.ofDigitChars_ten_toDigits
  obtain ⟨c, cs, hcs⟩ := List.exists_cons_of_ne_nil (Nat.toDigits_ne_nil (n := n) (b := 10))
  by_cases hzero : n = 0
  · subst hzero
    rw [Nat.toDigits_zero]
    have hoctets : Utf8.encode ['0'] ++ rest = 0x30 :: rest := rfl
    rw [hoctets, unsignedNumber, if_pos rfl, hrest]
    rfl
  · rw [hcs] at hdigits hvalue ⊢
    obtain ⟨x, hx, hdigit, hxc⟩ := utf8EncodeChar_digit c (hdigits c List.mem_cons_self)
    have hx0 : x ≠ 0x30 := by
      rintro rfl
      have hc : c = '0' := Char.toNat_inj.mp hxc.symm
      rw [hc] at hcs
      exact hzero (eq_zero_of_toDigits n cs hcs)
    rw [Nat.ofDigitChars_cons, Nat.mul_zero, Nat.zero_add, ← hxc] at hvalue
    have habsorb := absorb_encode cs (fun c hc => hdigits c (List.mem_cons_of_mem _ hc)) rest hrest
      (x.toNat - 0x30) 0
    have h48 : '0'.toNat = 0x30 := rfl
    rw [h48] at hvalue
    rw [hvalue] at habsorb
    rw [Utf8.encode_cons, hx, List.append_assoc, List.singleton_append, unsignedNumber, if_neg hx0,
      if_pos hdigit, habsorb hn]
    dsimp only
    rw [hrest]
    rfl

/-- A number that is not negative ends before what can follow it. -/
theorem afterInteger_of_follows (n : Nat) (rest : Octets) (hrest : Follows rest) :
    afterInteger false n rest = .ok (.integer n, rest) := by
  cases hrest <;> rfl

/-- A number that is negative ends before what can follow it, if it fits. -/
theorem afterInteger_negative_of_follows (n : Nat) (rest : Octets) (hrest : Follows rest)
    (hpos : n ≠ 0) (hfits : n ≤ 9223372036854775808) :
    afterInteger true n rest = .ok (.integer (-(n : Int)), rest) := by
  have hend : afterInteger true n rest =
      if n = 0 ∨ 9223372036854775808 < n then
        .ok (.float (Double.ofFloat (-(Float.ofNat n))), rest)
      else .ok (.integer (-(n : Int)), rest) := by
    cases hrest <;> rfl
  rw [hend, if_neg (by omega)]

/-! ## Strings -/

/-- Octets that need no escape stand for themselves. -/
theorem stringOctets_plain (xs : Octets)
    (hxs : ∀ x ∈ xs, x ≠ 0x22 ∧ x ≠ 0x5c ∧ 0x20 ≤ x.toNat) :
    ∀ done rest, stringOctets .between done (xs ++ rest) =
      stringOctets .between (xs.reverse ++ done) rest := by
  induction xs with
  | nil =>
    intro done rest
    rfl
  | cons x xs ih =>
    intro done rest
    obtain ⟨hquote, hbackslash, hcontrol⟩ := hxs x List.mem_cons_self
    have hlt : ¬ x < 0x20 := by
      rw [UInt8.lt_iff_toNat_lt]
      exact Nat.not_lt.mpr hcontrol
    rw [List.cons_append, stringOctets, if_neg hquote, if_neg hbackslash, if_neg hlt,
      ih (fun y hy => hxs y (List.mem_cons_of_mem _ hy))]
    simp

/-- A character that is written as it is stands for itself. -/
theorem stringOctets_utf8EncodeChar (c : Char) (hquote : c ≠ '"') (hbackslash : c ≠ '\\')
    (hcontrol : 0x20 ≤ c.toNat) (done rest : Octets) :
    stringOctets .between done (String.utf8EncodeChar c ++ rest) =
      stringOctets .between ((String.utf8EncodeChar c).reverse ++ done) rest := by
  refine stringOctets_plain _ (fun x hx => ?_) done rest
  rcases Nat.lt_or_ge c.toNat 0x80 with hlt | hge
  · rw [Utf8.utf8EncodeChar_of_lt c hlt, List.mem_singleton] at hx
    have hxc : x.toNat = c.toNat := by
      rw [hx, UInt8.toNat_ofNat', Nat.mod_eq_of_lt (by omega)]
    refine ⟨?_, ?_, by omega⟩
    · rintro rfl
      exact hquote (Char.toNat_inj.mp hxc.symm)
    · rintro rfl
      exact hbackslash (Char.toNat_inj.mp hxc.symm)
  · have hx80 := Utf8.le_of_mem_utf8EncodeChar c hge x hx
    refine ⟨?_, ?_, by omega⟩ <;> rintro rfl <;> exact absurd hx80 (by decide)

/-- Four hexadecimal digits of a control character stand for it. -/
theorem hexadecimal?_control : ∀ n < 0x20,
    hexadecimal? [UInt8.ofNat (Hex.digit (n % 16)).toNat, UInt8.ofNat (Hex.digit (n / 16)).toNat,
      0x30, 0x30] = some n := by
  decide

/-- Hexadecimal digits are written as one octet each. -/
theorem toNat_digit_lt : ∀ n < 16, (Hex.digit n).toNat < 0x80 := by
  decide

/-- The last of four hexadecimal digits completes a character that is no surrogate. -/
theorem stringOctets_digits (n : Nat) (seen : Octets) (x : UInt8) (done rest : Octets)
    (hseen : seen.length = 3) (hn : hexadecimal? (x :: seen) = some n) (h : n < 0xd800) :
    stringOctets (.digits none seen) done (x :: rest) =
      stringOctets .between (pushCode n done) rest := by
  rw [stringOctets.eq_def]
  dsimp only
  rw [hseen, if_neg (Nat.lt_irrefl 3), hn]
  dsimp only
  rw [if_neg (by omega), if_neg (by omega)]

/-- A control character in hexadecimal digits is read as itself. -/
theorem stringOctets_hexadecimal (n : Nat) (h : n < 0x20) (done rest : Octets) :
    stringOctets .between done
        (Utf8.encode ['\\', 'u', '0', '0', Hex.digit (n / 16), Hex.digit (n % 16)] ++ rest) =
      stringOctets .between ((String.utf8EncodeChar (Char.ofNat n)).reverse ++ done) rest := by
  have hhigh := Utf8.utf8EncodeChar_of_lt _ (toNat_digit_lt (n / 16) (by omega))
  have hlow := Utf8.utf8EncodeChar_of_lt _ (toNat_digit_lt (n % 16) (by omega))
  have hoctets : Utf8.encode ['\\', 'u', '0', '0', Hex.digit (n / 16), Hex.digit (n % 16)] ++ rest =
      0x5c :: 0x75 :: 0x30 :: 0x30 :: UInt8.ofNat (Hex.digit (n / 16)).toNat ::
        UInt8.ofNat (Hex.digit (n % 16)).toNat :: rest := by
    simp only [Utf8.encode_cons, hhigh, hlow]
    rfl
  have hread (x y : UInt8) :
      stringOctets .between done (0x5c :: 0x75 :: 0x30 :: 0x30 :: x :: y :: rest) =
        stringOctets (.digits none [x, 0x30, 0x30]) done (y :: rest) := rfl
  rw [hoctets, hread, stringOctets_digits n _ _ done rest rfl (hexadecimal?_control n h) (by omega),
    pushCode, List.reverseAux_eq]

/-- A character as it is written in a string is read as itself. -/
theorem stringOctets_escape (c : Char) (done rest : Octets) :
    stringOctets .between done (Utf8.encode (escape c) ++ rest) =
      stringOctets .between ((String.utf8EncodeChar c).reverse ++ done) rest := by
  unfold escape
  split
  · rename_i hc
    subst hc
    rfl
  split
  · rename_i hc
    subst hc
    rfl
  split
  · rename_i hcontrol
    split
    · rename_i hc
      subst hc
      rfl
    split
    · rename_i hc
      subst hc
      rfl
    split
    · rename_i hc
      subst hc
      rfl
    split
    · rename_i hc
      subst hc
      rfl
    split
    · rename_i hc
      subst hc
      rfl
    · rw [stringOctets_hexadecimal c.toNat hcontrol, Char.ofNat_toNat]
  · rename_i hquote hbackslash hcontrol
    rw [Utf8.encode_cons, Utf8.encode_nil, List.append_nil]
    exact stringOctets_utf8EncodeChar c hquote hbackslash (Nat.not_lt.mp hcontrol) done rest

/-- The characters of a string are read up to its closing quotation mark. -/
theorem stringOctets_flatMap_escape (cs : List Char) (rest : Octets) :
    ∀ done, stringOctets .between done (Utf8.encode (cs.flatMap escape) ++ 0x22 :: rest) =
      .ok (done.reverse ++ Utf8.encode cs, rest) := by
  induction cs with
  | nil =>
    intro done
    rw [Utf8.encode_nil, List.append_nil]
    rfl
  | cons c cs ih =>
    intro done
    rw [List.flatMap_cons, Utf8.encode_append, List.append_assoc, stringOctets_escape, ih,
      Utf8.encode_cons]
    simp

/-- A string is read back behind its opening quotation mark. -/
theorem string_stringChars (s : String) (rest : Octets) :
    ∃ tail, Utf8.encode (stringChars s) ++ rest = 0x22 :: tail ∧ string tail = .ok (s, rest) := by
  refine ⟨Utf8.encode (s.toList.flatMap escape) ++ 0x22 :: rest, ?_, ?_⟩
  · rw [stringChars, List.cons_append, Utf8.encode_cons, Utf8.encode_append, List.append_assoc,
      List.append_assoc]
    rfl
  · rw [string, stringOctets_flatMap_escape, List.reverse_nil, List.nil_append]
    dsimp only
    rw [Utf8.decode_encode]
    dsimp only
    rw [String.ofList_toList]

end Appliance.Json.Reader
