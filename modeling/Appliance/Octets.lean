/-!
# Octets, words and blocks

Everything that travels is a list of octets. Four octets in a row are a word, read most
significant octet first, and four words are a block: the size of a shared secret, of a digest,
of a cipher state and of the two halves of a frame header.

Reading takes a word or a block off the front of a list and gives the rest back, so that a
reader never counts positions. Nothing here depends on what the octets mean.
-/

namespace Appliance

/-- A string of octets, in the order in which it travels. -/
abbrev Octets := List UInt8

/-- Four octets in a row. -/
structure Word where
  a : UInt8
  b : UInt8
  c : UInt8
  d : UInt8
  deriving DecidableEq, Repr, Inhabited

namespace Word

/-- The octets of a word in order. -/
def toOctets (w : Word) : Octets := [w.a, w.b, w.c, w.d]

/-- The first word of a list and what follows it. -/
def take? : Octets → Option (Word × Octets)
  | a :: b :: c :: d :: rest => some (⟨a, b, c, d⟩, rest)
  | _ => none

/-- The octets of two words combined in pairs by exclusive or. -/
def xor (v w : Word) : Word := ⟨v.a ^^^ w.a, v.b ^^^ w.b, v.c ^^^ w.c, v.d ^^^ w.d⟩

/-- One function applied to every octet. -/
def map (f : UInt8 → UInt8) (w : Word) : Word := ⟨f w.a, f w.b, f w.c, f w.d⟩

/-- The number that a word spells, most significant octet first. -/
def toUInt32 (w : Word) : UInt32 :=
  UInt32.ofNat (((w.a.toNat * 256 + w.b.toNat) * 256 + w.c.toNat) * 256 + w.d.toNat)

/-- The word that spells a number, most significant octet first. -/
def ofUInt32 (n : UInt32) : Word :=
  ⟨UInt8.ofNat (n.toNat / 16777216), UInt8.ofNat (n.toNat / 65536),
    UInt8.ofNat (n.toNat / 256), UInt8.ofNat n.toNat⟩

/-- The number in the first two octets. -/
def upper (w : Word) : UInt16 := UInt16.ofNat (w.a.toNat * 256 + w.b.toNat)

/-- The number in the last two octets. -/
def lower (w : Word) : UInt16 := UInt16.ofNat (w.c.toNat * 256 + w.d.toNat)

/-- The word whose two halves spell two numbers. -/
def ofHalves (upper lower : UInt16) : Word :=
  ⟨UInt8.ofNat (upper.toNat / 256), UInt8.ofNat upper.toNat,
    UInt8.ofNat (lower.toNat / 256), UInt8.ofNat lower.toNat⟩

/-- The word with its octets in the opposite order. -/
def reverse (w : Word) : Word := ⟨w.d, w.c, w.b, w.a⟩

@[simp] theorem length_toOctets (w : Word) : w.toOctets.length = 4 := rfl

@[simp] theorem take?_toOctets_append (w : Word) (rest : Octets) :
    take? (w.toOctets ++ rest) = some (w, rest) := rfl

/-- Reading a word off a list undoes writing it in front of the rest, and nothing else. -/
theorem take?_eq_some_iff {xs rest : Octets} {w : Word} :
    take? xs = some (w, rest) ↔ xs = w.toOctets ++ rest := by
  constructor
  · intro h
    unfold take? at h
    split at h
    · simp only [Option.some.injEq, Prod.mk.injEq] at h
      obtain ⟨rfl, rfl⟩ := h
      rfl
    · cases h
  · rintro rfl
    simp

/-- A word can be read exactly where four octets are left. -/
theorem take?_eq_none_iff {xs : Octets} : take? xs = none ↔ xs.length < 4 := by
  rcases xs with _ | ⟨a, _ | ⟨b, _ | ⟨c, _ | ⟨d, r⟩⟩⟩⟩ <;> simp [take?]

/-- Where four octets are left a word is read, and four octets fewer remain. -/
theorem exists_take? {xs : Octets} (h : 4 ≤ xs.length) :
    ∃ w rest, take? xs = some (w, rest) ∧ xs.length = rest.length + 4 := by
  rcases xs with _ | ⟨a, _ | ⟨b, _ | ⟨c, _ | ⟨d, r⟩⟩⟩⟩
  case cons.cons.cons.cons => exact ⟨⟨a, b, c, d⟩, r, rfl, rfl⟩
  all_goals simp at h

@[simp] theorem toUInt32_ofUInt32 (n : UInt32) : (ofUInt32 n).toUInt32 = n := by
  apply UInt32.toNat_inj.mp
  have := n.toNat_lt
  simp [ofUInt32, toUInt32, UInt32.toNat_ofNat]
  omega

@[simp] theorem ofUInt32_toUInt32 (w : Word) : ofUInt32 w.toUInt32 = w := by
  have ha := w.a.toNat_lt
  have hb := w.b.toNat_lt
  have hc := w.c.toNat_lt
  have hd := w.d.toNat_lt
  cases w
  simp only [ofUInt32, toUInt32, mk.injEq, ← UInt8.toNat_inj]
  simp only [UInt8.toNat_ofNat', UInt32.toNat_ofNat'] at *
  omega

@[simp] theorem upper_ofHalves (m n : UInt16) : (ofHalves m n).upper = m := by
  apply UInt16.toNat_inj.mp
  have := m.toNat_lt
  simp [ofHalves, upper]
  omega

@[simp] theorem lower_ofHalves (m n : UInt16) : (ofHalves m n).lower = n := by
  apply UInt16.toNat_inj.mp
  have := n.toNat_lt
  simp [ofHalves, lower]
  omega

@[simp] theorem ofHalves_upper_lower (w : Word) : ofHalves w.upper w.lower = w := by
  have ha := w.a.toNat_lt
  have hb := w.b.toNat_lt
  have hc := w.c.toNat_lt
  have hd := w.d.toNat_lt
  cases w
  simp only [ofHalves, upper, lower, mk.injEq, ← UInt8.toNat_inj]
  simp only [UInt8.toNat_ofNat', UInt16.toNat_ofNat'] at *
  omega

end Word

/-- Four words in a row, sixteen octets. -/
structure Block where
  w0 : Word
  w1 : Word
  w2 : Word
  w3 : Word
  deriving DecidableEq, Repr, Inhabited

namespace Block

/-- The number of octets in a block. -/
def size : Nat := 16

/-- The octets of a block in order. -/
def toOctets (b : Block) : Octets :=
  b.w0.toOctets ++ (b.w1.toOctets ++ (b.w2.toOctets ++ b.w3.toOctets))

/-- The first block of a list and what follows it. -/
def take? (xs : Octets) : Option (Block × Octets) := do
  let (w0, xs) ← Word.take? xs
  let (w1, xs) ← Word.take? xs
  let (w2, xs) ← Word.take? xs
  let (w3, xs) ← Word.take? xs
  return (⟨w0, w1, w2, w3⟩, xs)

/-- The block that a list of sixteen octets is. -/
def ofOctets? (xs : Octets) : Option Block :=
  match take? xs with
  | some (b, []) => some b
  | _ => none

/-- The octets of two blocks combined in pairs by exclusive or. -/
def xor (x y : Block) : Block := ⟨x.w0.xor y.w0, x.w1.xor y.w1, x.w2.xor y.w2, x.w3.xor y.w3⟩

/-- One function applied to every octet. -/
def map (f : UInt8 → UInt8) (b : Block) : Block := ⟨b.w0.map f, b.w1.map f, b.w2.map f, b.w3.map f⟩

/-- The block that repeats one octet. -/
def fill (x : UInt8) : Block := ⟨⟨x, x, x, x⟩, ⟨x, x, x, x⟩, ⟨x, x, x, x⟩, ⟨x, x, x, x⟩⟩

@[simp] theorem length_toOctets (b : Block) : b.toOctets.length = 16 := rfl

@[simp] theorem take?_toOctets_append (b : Block) (rest : Octets) :
    take? (b.toOctets ++ rest) = some (b, rest) := rfl

@[simp] theorem ofOctets?_toOctets (b : Block) : ofOctets? b.toOctets = some b := rfl

/-- Blocks with the same octets are the same. -/
theorem toOctets_inj {b c : Block} : b.toOctets = c.toOctets ↔ b = c := by
  constructor
  · intro h
    have hsame := congrArg ofOctets? h
    rw [ofOctets?_toOctets, ofOctets?_toOctets] at hsame
    exact Option.some.inj hsame
  · rintro rfl
    rfl

/-- Reading a block off a list undoes writing it in front of the rest, and nothing else. -/
theorem take?_eq_some_iff {xs rest : Octets} {b : Block} :
    take? xs = some (b, rest) ↔ xs = b.toOctets ++ rest := by
  constructor
  · intro h
    simp only [take?, Option.bind_eq_bind, Option.bind_eq_some_iff, Prod.exists,
      Option.pure_def, Option.some.injEq, Prod.mk.injEq] at h
    obtain ⟨w0, x0, h0, w1, x1, h1, w2, x2, h2, w3, x3, h3, rfl, rfl⟩ := h
    rw [Word.take?_eq_some_iff] at h0 h1 h2 h3
    subst h3 h2 h1 h0
    simp [toOctets]
  · rintro rfl
    simp

/-- A block can be read exactly where sixteen octets are left. -/
theorem take?_eq_none_iff {xs : Octets} : take? xs = none ↔ xs.length < 16 := by
  constructor
  · intro h
    rcases Nat.lt_or_ge xs.length 16 with hlt | hge
    · exact hlt
    · obtain ⟨w0, x0, h0, l0⟩ := Word.exists_take? (show 4 ≤ xs.length by omega)
      obtain ⟨w1, x1, h1, l1⟩ := Word.exists_take? (show 4 ≤ x0.length by omega)
      obtain ⟨w2, x2, h2, l2⟩ := Word.exists_take? (show 4 ≤ x1.length by omega)
      obtain ⟨w3, x3, h3, l3⟩ := Word.exists_take? (show 4 ≤ x2.length by omega)
      simp [take?, h0, h1, h2, h3] at h
  · intro h
    cases ht : take? xs with
    | none => rfl
    | some p =>
      obtain ⟨b, rest⟩ := p
      have := congrArg List.length (take?_eq_some_iff.mp ht)
      simp at this
      omega

/-- Sixteen octets are a block. -/
theorem exists_ofOctets? {xs : Octets} (h : xs.length = 16) :
    ∃ b, ofOctets? xs = some b ∧ b.toOctets = xs := by
  have hne : take? xs ≠ none := fun hnone => by
    have := take?_eq_none_iff.mp hnone
    omega
  obtain ⟨⟨b, rest⟩, ht⟩ := Option.ne_none_iff_exists'.mp hne
  obtain rfl := take?_eq_some_iff.mp ht
  rw [List.length_append, length_toOctets, Nat.add_eq_left, List.length_eq_zero_iff] at h
  subst h
  rw [List.append_nil]
  exact ⟨b, ofOctets?_toOctets b, rfl⟩

end Block

end Appliance
