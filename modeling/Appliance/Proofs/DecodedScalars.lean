import Appliance.Json.Decode

/-!
# Which values are read as scalars

A number of a width is read from the integer that it is and from nothing else, and a string from
itself. An integer of a width is written with its value, so that the range of a width need not be
mentioned: an integer within it is the value of a number of that width.
-/

namespace Appliance.Json

section

variable {ε α β : Type} {read : Except ε α} {b : β}

/-- What is made of something read is got exactly if it is made of what can be read. -/
theorem map_eq_ok_iff {f : α → β} : read.map f = .ok b ↔ ∃ a, read = .ok a ∧ f a = b := by
  cases read <;> simp [Except.map]

/-- What is read after something else is got exactly if both can be read. -/
theorem bind_eq_ok_iff {f : α → Except ε β} :
    read >>= f = .ok b ↔ ∃ a, read = .ok a ∧ f a = .ok b := by
  cases read <;> simp [bind, Except.bind]

end

/-- A natural number of 32 bits is read from its value alone. -/
theorem decode_uint32_eq_ok_iff (v : Json) (n : UInt32) :
    decode v = .ok n ↔ v = .int n.toNat := by
  have hn := n.toNat_lt
  have hwidth : ((Nat.pow 2 32 : Nat) : Int) = 4294967296 := rfl
  cases v with
  | number m =>
    cases m with
    | float x => simp [decode, asUnsigned, mismatch, Except.map]
    | integer k =>
      simp only [decode, asUnsigned, hwidth, Json.number.injEq, Number.integer.injEq]
      by_cases hk : 0 ≤ k ∧ k < 4294967296
      · rw [if_pos hk, Except.map, Except.ok.injEq, ← UInt32.toNat_inj, UInt32.toNat_ofNat']
        omega
      · rw [if_neg hk, Except.map]
        constructor
        · intro h
          cases h
        · intro h
          omega
  | null | bool _ | string _ | array _ | object _ =>
    simp [decode, asUnsigned, mismatch, Except.map]

/-- A signed integer of 64 bits is read from its value alone. -/
theorem decode_int64_eq_ok_iff (v : Json) (c : Int64) : decode v = .ok c ↔ v = .int c.toInt := by
  have hlow := c.le_toInt
  have hhigh := c.toInt_lt
  have hwidth : ((Nat.pow 2 (64 - 1) : Nat) : Int) = 9223372036854775808 := rfl
  cases v with
  | number m =>
    cases m with
    | float x => simp [decode, asSigned, mismatch, Except.map]
    | integer k =>
      simp only [decode, asSigned, hwidth, Json.number.injEq, Number.integer.injEq]
      by_cases hk : -9223372036854775808 ≤ k ∧ k < 9223372036854775808
      · rw [if_pos hk, Except.map, Except.ok.injEq, ← Int64.toInt_inj,
          Int64.toInt_ofInt_of_le hk.1 hk.2]
      · rw [if_neg hk, Except.map]
        constructor
        · intro h
          cases h
        · intro h
          omega
  | null | bool _ | string _ | array _ | object _ => simp [decode, asSigned, mismatch, Except.map]

/-- A string is read from itself alone. -/
theorem decode_string_eq_ok_iff (v : Json) (s : String) : decode v = .ok s ↔ v = .string s := by
  cases v with
  | string t => simp [decode, asString]
  | null | bool _ | number _ | array _ | object _ => simp [decode, asString, mismatch]

end Appliance.Json
