import Appliance.Json.Reader

/-!
# What no JSON text holds

Two things stop every reader, wherever in a text they stand: a zero octet, and two commas in front of
a quotation mark and an o. Outside of strings a comma is followed by a value or a key, so that no
second one follows it. Inside a string the quotation mark closes the string, and what follows a string
is no o. The octets of an escape are letters and digits, so that nothing of this starts among them.

What is proved of each reader is that it gets past no obstacle, which is to say that every obstacle in
front of it is one behind it. Only a reader that ends with a string needs a proviso: what follows must
not be an o. Whoever calls it sees to that, as the next octet is none that it can go on with.
-/

namespace Appliance.Json

namespace Reader

/-- Octets that no reader gets past. -/
inductive Obstacle : Octets → Prop
  | zero (rest : Octets) : Obstacle (0x00 :: rest)
  | commas (rest : Octets) : Obstacle (0x2c :: 0x2c :: 0x22 :: 0x6f :: rest)

/-- An octet that can start an obstacle. -/
def isEdge (x : UInt8) : Bool := x == 0x00 || x == 0x2c

/-- An obstacle starts with an octet that can start one. -/
theorem Obstacle.isEdge {x : UInt8} {rest : Octets} (h : Obstacle (x :: rest)) :
    isEdge x = true := by
  cases h <;> rfl

/-- Every obstacle in some octets is one in what is left of them. -/
def Clears (input rest : Octets) : Prop := ∀ s, Obstacle s → s <:+ input → s <:+ rest

namespace Clears

variable {x : UInt8} {input middle rest : Octets}

/-- Nothing is read. -/
@[simp] theorem refl (input : Octets) : Clears input input := fun _ _ hs => hs

/-- One reader follows another. -/
theorem trans (h : Clears input middle) (h' : Clears middle rest) : Clears input rest :=
  fun s hs hsuffix => h' s hs (h s hs hsuffix)

/-- An octet is read that can start no obstacle. -/
theorem cons (hx : isEdge x = false) (h : Clears input rest) : Clears (x :: input) rest := by
  intro s hs hsuffix
  obtain rfl | hsuffix := List.suffix_cons_iff.mp hsuffix
  · simp [hs.isEdge] at hx
  · exact h s hs hsuffix

/-- What is no obstacle at an octet is none there. -/
theorem cons_of_not (hx : ¬ Obstacle (x :: input)) (h : Clears input rest) :
    Clears (x :: input) rest := by
  intro s hs hsuffix
  obtain rfl | hsuffix := List.suffix_cons_iff.mp hsuffix
  · exact absurd hs hx
  · exact h s hs hsuffix

end Clears

/-! ## Blanks and words -/

/-- Blanks are skipped. -/
theorem clears_skipBlank (xs : Octets) : Clears xs (skipBlank xs) := by
  induction xs with
  | nil => exact .refl []
  | cons x xs ih =>
    by_cases hx : isBlank x = true
    · have hedge : isEdge x = false := by
        simp only [isBlank, Bool.or_eq_true, beq_iff_eq] at hx
        rcases hx with ((rfl | rfl) | rfl) | rfl <;> rfl
      rw [skipBlank, List.dropWhile_cons_of_pos hx]
      exact ih.cons hedge
    · rw [skipBlank, List.dropWhile_cons_of_neg hx]
      exact .refl _

/-- An o that comes next is what comes after blanks. -/
theorem head?_ne_of_skipBlank {xs rest : Octets} {x : UInt8} (h : skipBlank xs = x :: rest)
    (hx : x ≠ 0x6f) : xs.head? ≠ some 0x6f := by
  cases xs with
  | nil => nofun
  | cons y ys =>
    intro hy
    cases hy
    rw [skipBlank, List.dropWhile_cons_of_neg (by decide)] at h
    cases h
    exact hx rfl

/-- A word is read. -/
theorem clears_word (w xs rest : Octets) (hw : ∀ x ∈ w, isEdge x = false)
    (h : word w xs = .ok rest) : Clears xs rest := by
  induction w generalizing xs with
  | nil =>
    cases h
    exact .refl rest
  | cons y w ih =>
    cases xs with
    | nil => cases h
    | cons x xs =>
      rw [word] at h
      split at h
      · rename_i hsame
        exact (ih xs (fun z hz => hw z (List.mem_cons_of_mem y hz)) h).cons
          (hsame ▸ hw y List.mem_cons_self)
      · cases h

/-! ## Numbers -/

/-- A digit starts no obstacle. -/
theorem isEdge_of_isDigit {x : UInt8} (h : isDigit x = true) : isEdge x = false := by
  simp only [isDigit, Bool.and_eq_true, decide_eq_true_eq, UInt8.le_iff_toNat_le,
    UInt8.reduceToNat] at h
  simp only [isEdge, Bool.or_eq_false_iff, beq_eq_false_iff_ne, ne_eq, ← UInt8.toNat_inj,
    UInt8.reduceToNat]
  omega

/-- Digits are appended. -/
theorem clears_absorb (significand count : Nat) (xs : Octets) :
    Clears xs (absorb significand count xs).2.2 := by
  induction xs generalizing significand count with
  | nil => exact .refl []
  | cons x xs ih =>
    rw [absorb]
    split
    · rename_i hdigit
      rw [Bool.and_eq_true] at hdigit
      exact (ih _ _).cons (isEdge_of_isDigit hdigit.1)
    · exact .refl _

/-- Digits are skipped. -/
theorem clears_skipDigits (count : Nat) (xs : Octets) : Clears xs (skipDigits count xs).2 := by
  induction xs generalizing count with
  | nil => exact .refl []
  | cons x xs ih =>
    rw [skipDigits]
    split
    · rename_i hdigit
      exact (ih _).cons (isEdge_of_isDigit hdigit)
    · exact .refl _

/-- The digits of an exponent are appended. -/
theorem clears_exponentDigits (exponent : Nat) (xs : Octets) :
    Clears xs (exponentDigits exponent xs).2.2 := by
  induction xs generalizing exponent with
  | nil => exact .refl []
  | cons x xs ih =>
    rw [exponentDigits]
    split
    · rename_i hdigit
      have hedge := isEdge_of_isDigit hdigit
      split
      · exact (ih _).cons hedge
      · exact (Clears.refl xs).cons hedge
    · exact .refl _

/-- The sign of an exponent is read. -/
theorem clears_exponentSign (xs : Octets) : Clears xs (exponentSign xs).2 := by
  cases xs with
  | nil => exact .refl []
  | cons x xs =>
    rw [exponentSign]
    split
    · rename_i hx
      exact (Clears.refl xs).cons (hx ▸ rfl)
    · split
      · rename_i hx
        exact (Clears.refl xs).cons (hx ▸ rfl)
      · exact .refl _

section

variable {negative : Bool} {significand : Nat} {start : Int} {input rest : Octets} {v : Number}

/-- A double is made of what is read already. -/
theorem eq_of_float (h : float negative significand start input = .ok (v, rest)) :
    rest = input := by
  unfold float at h
  split at h
  · cases h
  · cases h
    rfl

/-- An exponent is read. -/
theorem clears_exponentPart (h : exponentPart negative significand start input = .ok (v, rest)) :
    Clears input rest := by
  have hsign := clears_exponentSign input
  unfold exponentPart at h
  generalize exponentSign input = signed at hsign h
  obtain ⟨below, input⟩ := signed
  refine hsign.trans ?_
  dsimp only at h ⊢
  cases input with
  | nil => cases h
  | cons x xs =>
    dsimp only at h
    split at h
    · rename_i hdigit
      refine Clears.cons (isEdge_of_isDigit hdigit) ?_
      have hdigits := clears_exponentDigits (x.toNat - 0x30) xs
      generalize exponentDigits (x.toNat - 0x30) xs = read at hdigits h
      obtain ⟨exponent, fits, after⟩ := read
      refine hdigits.trans ?_
      cases fits with
      | true =>
        rw [eq_of_float h]
        exact .refl _
      | false =>
        dsimp only at h
        split at h
        · cases h
        · rw [eq_of_float h]
          exact clears_skipDigits 0 after
    · cases h

/-- An exponent is read if there is one. -/
theorem clears_maybeExponent (h : maybeExponent negative significand start input = .ok (v, rest)) :
    Clears input rest := by
  cases input with
  | nil =>
    rw [eq_of_float h]
    exact .refl []
  | cons x xs =>
    rw [maybeExponent] at h
    split at h
    · rename_i hmark
      refine (clears_exponentPart h).cons ?_
      rcases hmark with rfl | rfl <;> rfl
    · rw [eq_of_float h]
      exact .refl _

/-- A fraction is read. -/
theorem clears_fractionPart (h : fractionPart negative significand start input = .ok (v, rest)) :
    Clears input rest := by
  have hdigits := clears_absorb significand 0 input
  unfold fractionPart at h
  generalize absorb significand 0 input = read at hdigits h
  obtain ⟨significand, count, after⟩ := read
  refine hdigits.trans ?_
  dsimp only at h ⊢
  split at h
  · exact (clears_skipDigits 0 after).trans (clears_maybeExponent h)
  · split at h
    · cases h
    · exact clears_maybeExponent h

/-- What makes a number a double is read if there is any of it. -/
theorem clears_afterInteger (h : afterInteger negative significand input = .ok (v, rest)) :
    Clears input rest := by
  unfold afterInteger at h
  split at h
  · exact (clears_fractionPart h).cons rfl
  · exact (clears_exponentPart h).cons rfl
  · exact (clears_exponentPart h).cons rfl
  · split at h
    · split at h <;> cases h <;> exact .refl _
    · cases h
      exact .refl _

/-- The digits of a long integer are skipped. -/
theorem clears_longInteger (h : longInteger negative significand input = .ok (v, rest)) :
    Clears input rest := by
  have hdigits := clears_skipDigits 0 input
  unfold longInteger at h
  generalize skipDigits 0 input = read at hdigits h
  obtain ⟨count, after⟩ := read
  refine hdigits.trans ?_
  dsimp only at h ⊢
  split at h
  · exact (clears_fractionPart h).cons rfl
  · exact clears_maybeExponent h

/-- A number is read. -/
theorem clears_unsignedNumber (h : unsignedNumber negative input = .ok (v, rest)) :
    Clears input rest := by
  cases input with
  | nil => cases h
  | cons x xs =>
    rw [unsignedNumber] at h
    split at h
    · rename_i hzero
      refine Clears.cons (hzero ▸ rfl) ?_
      split at h
      · cases h
      · exact clears_afterInteger h
    · split at h
      · rename_i hdigit
        refine Clears.cons (isEdge_of_isDigit hdigit) ?_
        have hdigits := clears_absorb (x.toNat - 0x30) 0 xs
        generalize absorb (x.toNat - 0x30) 0 xs = read at hdigits h
        obtain ⟨significand, count, after⟩ := read
        refine hdigits.trans ?_
        dsimp only at h ⊢
        split at h
        · exact clears_longInteger h
        · exact clears_afterInteger h
      · cases h

end

/-! ## Strings -/

/-- A hexadecimal digit starts no obstacle. -/
theorem isEdge_of_value? {x n : UInt8} (h : Hex.value? x = some n) : isEdge x = false := by
  rw [Bool.eq_false_iff]
  intro hedge
  simp only [isEdge, Bool.or_eq_true, beq_iff_eq] at hedge
  rcases hedge with rfl | rfl <;> cases h

/-- Octets that spell a number in hexadecimal digits start no obstacle. -/
theorem isEdge_of_hexadecimal? (xs : Octets) (n : Nat) (h : hexadecimal? xs = some n) :
    ∀ x ∈ xs, isEdge x = false := by
  induction xs generalizing n with
  | nil => nofun
  | cons x xs ih =>
    simp only [hexadecimal?, Option.bind_eq_bind, Option.bind_eq_some_iff] at h
    obtain ⟨high, hhigh, low, hlow, -⟩ := h
    intro y hy
    rcases List.mem_cons.mp hy with rfl | hy
    · exact isEdge_of_value? hlow
    · exact ih high hhigh y hy

/-- Where an escape is read, its digits start no obstacle. -/
theorem isEdge_of_digits (lead : Option Nat) (seen done xs : Octets) (read : Octets × Octets)
    (h : stringOctets (.digits lead seen) done xs = .ok read) : ∀ x ∈ seen, isEdge x = false := by
  induction xs generalizing seen with
  | nil => cases h
  | cons x xs ih =>
    unfold stringOctets at h
    split at h
    · exact fun y hy => ih (x :: seen) h y (List.mem_cons_of_mem x hy)
    · cases hnumber : hexadecimal? (x :: seen) with
      | none =>
        rw [hnumber] at h
        cases h
      | some n =>
        exact fun y hy => isEdge_of_hexadecimal? _ n hnumber y (List.mem_cons_of_mem x hy)

/-- A string ends with the octet that comes next, or it is read on behind it. -/
theorem stringOctets_cons_cases {place : Place} {done xs octets rest : Octets} {x : UInt8}
    (h : stringOctets place done (x :: xs) = .ok (octets, rest)) :
    rest = xs ∨ ∃ place done, stringOctets place done xs = .ok (octets, rest) := by
  cases place with
  | between =>
    rw [stringOctets] at h
    split at h
    · cases h
      exact Or.inl rfl
    · split at h
      · exact Or.inr ⟨_, _, h⟩
      · split at h
        · cases h
        · exact Or.inr ⟨_, _, h⟩
  | escape =>
    rw [stringOctets] at h
    split at h
    · exact Or.inr ⟨_, _, h⟩
    · split at h
      · exact Or.inr ⟨_, _, h⟩
      · cases h
  | digits lead seen =>
    unfold stringOctets at h
    split at h
    · exact Or.inr ⟨_, _, h⟩
    · split at h
      · cases h
      · split at h
        · cases h
        · split at h <;> exact Or.inr ⟨_, _, h⟩
      · split at h
        · exact Or.inr ⟨_, _, h⟩
        · cases h
  | beforeTrail lead =>
    rw [stringOctets] at h
    split at h
    · exact Or.inr ⟨_, _, h⟩
    · cases h
  | beforeMark lead =>
    rw [stringOctets] at h
    split at h
    · exact Or.inr ⟨_, _, h⟩
    · cases h

/-- No string is read from an obstacle on, unless an o is left behind the string. -/
theorem not_obstacle_of_stringOctets {place : Place} {done xs octets rest : Octets}
    (h : stringOctets place done xs = .ok (octets, rest)) (hrest : rest.head? ≠ some 0x6f) :
    ¬ Obstacle xs := by
  intro hxs
  have hdigits (lead : Option Nat) (seen tail : Octets) (x : UInt8) (hx : isEdge x = true)
      (h : stringOctets (.digits lead seen) done (x :: tail) = .ok (octets, rest)) : False := by
    unfold stringOctets at h
    split at h
    · have hseen := isEdge_of_digits _ _ _ _ _ h x List.mem_cons_self
      rw [hx] at hseen
      cases hseen
    · cases hnumber : hexadecimal? (x :: seen) with
      | none =>
        rw [hnumber] at h
        cases h
      | some n =>
        have hseen := isEdge_of_hexadecimal? _ n hnumber x List.mem_cons_self
        rw [hx] at hseen
        cases hseen
  cases hxs with
  | zero tail =>
    cases place with
    | digits lead seen => exact hdigits lead seen tail 0x00 rfl h
    | between | escape | beforeTrail | beforeMark => cases h
  | commas tail =>
    cases place with
    | digits lead seen => exact hdigits lead seen _ 0x2c rfl h
    | between =>
      -- Two commas belong to the string, and the quotation mark closes it.
      cases h
      exact hrest rfl
    | escape | beforeTrail | beforeMark => cases h

/-- A string is read, unless an o comes behind it. -/
theorem clears_stringOctets (place : Place) (done xs octets rest : Octets)
    (h : stringOctets place done xs = .ok (octets, rest)) (hrest : rest.head? ≠ some 0x6f) :
    Clears xs rest := by
  induction xs generalizing place done with
  | nil => cases h
  | cons x xs ih =>
    have hx := not_obstacle_of_stringOctets h hrest
    obtain rfl | ⟨place', done', hlater⟩ := stringOctets_cons_cases h
    · exact (Clears.refl rest).cons_of_not hx
    · exact (ih place' done' hlater).cons_of_not hx

/-- A string with its closing quotation mark is read, unless an o comes behind it. -/
theorem clears_string {input rest : Octets} {s : String} (h : string input = .ok (s, rest))
    (hrest : rest.head? ≠ some 0x6f) : Clears input rest := by
  unfold string at h
  cases hread : stringOctets .between [] input with
  | error stop =>
    rw [hread] at h
    cases h
  | ok read =>
    obtain ⟨octets, after⟩ := read
    rw [hread] at h
    dsimp only at h
    split at h
    · cases h
      exact clears_stringOctets .between [] input octets _ hread hrest
    · cases h

/-! ## Values -/

/-- A reader of values gets past no obstacle, unless an o comes behind the value, and reads nothing
where a comma comes first. -/
structure ReadsValues (item : Octets → Reading Json) : Prop where
  clears {input rest : Octets} {v : Json} (h : item input = .ok (v, rest))
    (hrest : rest.head? ≠ some 0x6f) : Clears input rest
  ne_comma {input : Octets} {read : Json × Octets} (h : item input = .ok read) (more : Octets) :
    skipBlank input ≠ 0x2c :: more

/-- What a reader gives and is made something of, it gives. -/
theorem exists_of_map_eq_ok {α β : Type} {read : Except Stop α} {f : α → β} {b : β}
    (h : read.map f = .ok b) : ∃ a, read = .ok a ∧ f a = b := by
  cases read with
  | error stop => cases h
  | ok a =>
    cases h
    exact ⟨a, rfl, rfl⟩

/-- A value is read by a reader of strings, of numbers, of words or of what is nested. -/
theorem readsValues_start (nested : UInt8 → Octets → Reading Json)
    (hnested : ∀ opening input rest v, nested opening input = .ok (v, rest) → Clears input rest) :
    ReadsValues (start nested) := by
  refine ⟨?_, ?_⟩
  · intro input rest v h hrest
    have hblank := clears_skipBlank input
    unfold start at h
    cases hinput : skipBlank input with
    | nil =>
      rw [hinput] at h
      cases h
    | cons x xs =>
      rw [hinput] at h hblank
      refine hblank.trans ?_
      dsimp only at h
      have hword (w : Octets) (made : Json) (hx : isEdge x = false)
          (hw : ∀ y ∈ w, isEdge y = false)
          (h : ((word w xs).map fun rest => (made, rest)) = .ok (v, rest)) :
          Clears (x :: xs) rest := by
        obtain ⟨after, hread, heq⟩ := exists_of_map_eq_ok h
        cases heq
        exact (clears_word w xs _ hw hread).cons hx
      split at h
      · rename_i hx
        obtain ⟨read, hread, heq⟩ := exists_of_map_eq_ok h
        cases heq
        exact (clears_string hread hrest).cons (hx ▸ rfl)
      · split at h
        · rename_i hx
          obtain ⟨read, hread, heq⟩ := exists_of_map_eq_ok h
          cases heq
          exact (clears_unsignedNumber hread).cons (hx ▸ rfl)
        · split at h
          · obtain ⟨read, hread, heq⟩ := exists_of_map_eq_ok h
            cases heq
            exact clears_unsignedNumber hread
          · split at h
            · rename_i hx
              refine (hnested x xs rest v h).cons ?_
              rcases hx with rfl | rfl <;> rfl
            · split at h
              · rename_i hx
                exact hword _ _ (hx ▸ rfl) (by simp [isEdge]) h
              · split at h
                · rename_i hx
                  exact hword _ _ (hx ▸ rfl) (by simp [isEdge]) h
                · split at h
                  · rename_i hx
                    exact hword _ _ (hx ▸ rfl) (by simp [isEdge]) h
                  · cases h
  · intro input read h more hmore
    unfold start at h
    rw [hmore] at h
    cases h

section

variable {item : Octets → Reading Json}

/-- A value is read up to the octet that comes next, if that is none that could follow a string's
quotation mark in an obstacle. -/
theorem ReadsValues.clears_next (hitem : ReadsValues item) {input after more : Octets} {v : Json}
    {x : UInt8} (hread : item input = .ok (v, after)) (hafter : skipBlank after = x :: more)
    (hx : x ≠ 0x6f) : Clears input (x :: more) := by
  have hblank := clears_skipBlank after
  rw [hafter] at hblank
  exact (hitem.clears hread (head?_ne_of_skipBlank hafter hx)).trans hblank

/-- A comma is read if the octet that comes next is none. -/
theorem clears_comma {more later : Octets} {y : UInt8} (hnext : skipBlank more = y :: later)
    (hy : y ≠ 0x2c) : Clears (0x2c :: more) (y :: later) := by
  have hblank := clears_skipBlank more
  rw [hnext] at hblank
  refine Clears.cons_of_not ?_ hblank
  intro hobstacle
  cases hobstacle with
  | commas tail =>
    cases hnext
    exact hy rfl

/-- Items are read, and no comma comes before the first of them. -/
theorem clears_items (hitem : ReadsValues item) (n : Nat) (done : List Json) (input rest : Octets)
    (xs : List Json) (h : items item n done input = .ok (xs, rest)) :
    Clears input rest ∧ ∀ more, skipBlank input ≠ 0x2c :: more := by
  induction n generalizing done input with
  | zero => cases h
  | succ n ih =>
    rw [items] at h
    cases hfirst : item input with
    | error stop =>
      rw [hfirst] at h
      cases h
    | ok read =>
      obtain ⟨v, after⟩ := read
      refine ⟨?_, hitem.ne_comma hfirst⟩
      rw [hfirst] at h
      dsimp only at h
      cases hafter : skipBlank after with
      | nil =>
        rw [hafter] at h
        cases h
      | cons x more =>
        rw [hafter] at h
        dsimp only at h
        split at h
        · rename_i hx
          subst hx
          cases h
          exact (hitem.clears_next hfirst hafter (by decide)).trans ((Clears.refl rest).cons rfl)
        · split at h
          · rename_i hx
            subst hx
            refine (hitem.clears_next hfirst hafter (by decide)).trans ?_
            cases hnext : skipBlank more with
            | nil =>
              rw [hnext] at h
              cases h
            | cons y later =>
              rw [hnext] at h
              dsimp only at h
              split at h
              · cases h
              · obtain ⟨hlater, hcomma⟩ := ih (v :: done) (y :: later) h
                have hy : y ≠ 0x2c := by
                  rintro rfl
                  exact hcomma later rfl
                exact (clears_comma hnext hy).trans hlater
          · cases h

/-- A colon is read, and no o comes before it. -/
theorem clears_colon {input rest : Octets} (h : colon input = .ok rest) :
    Clears input rest ∧ input.head? ≠ some 0x6f := by
  have hblank := clears_skipBlank input
  unfold colon at h
  cases hinput : skipBlank input with
  | nil =>
    rw [hinput] at h
    cases h
  | cons x xs =>
    rw [hinput] at h hblank
    dsimp only at h
    split at h
    · rename_i hx
      subst hx
      cases h
      exact ⟨hblank.trans ((Clears.refl rest).cons rfl),
        head?_ne_of_skipBlank hinput (by decide)⟩
    · cases h

/-- Members are read. -/
theorem clears_members (hitem : ReadsValues item) (n : Nat) (done : List (String × Json))
    (input rest : Octets) (ms : List (String × Json))
    (h : members item n done input = .ok (ms, rest)) : Clears input rest := by
  induction n generalizing done input with
  | zero => cases h
  | succ n ih =>
    rw [members] at h
    cases hkey : string input with
    | error stop =>
      rw [hkey] at h
      cases h
    | ok read =>
      obtain ⟨key, before⟩ := read
      rw [hkey] at h
      dsimp only at h
      cases hcolon : colon before with
      | error stop =>
        rw [hcolon] at h
        cases h
      | ok inner =>
        rw [hcolon] at h
        dsimp only at h
        obtain ⟨hinner, hbefore⟩ := clears_colon hcolon
        refine ((clears_string hkey hbefore).trans hinner).trans ?_
        cases hfirst : item inner with
        | error stop =>
          rw [hfirst] at h
          cases h
        | ok read =>
          obtain ⟨v, after⟩ := read
          rw [hfirst] at h
          dsimp only at h
          cases hafter : skipBlank after with
          | nil =>
            rw [hafter] at h
            cases h
          | cons x more =>
            rw [hafter] at h
            dsimp only at h
            split at h
            · rename_i hx
              subst hx
              cases h
              exact (hitem.clears_next hfirst hafter (by decide)).trans
                ((Clears.refl rest).cons rfl)
            · split at h
              · rename_i hx
                subst hx
                refine (hitem.clears_next hfirst hafter (by decide)).trans ?_
                cases hnext : skipBlank more with
                | nil =>
                  rw [hnext] at h
                  cases h
                | cons y later =>
                  rw [hnext] at h
                  dsimp only at h
                  split at h
                  · rename_i hy
                    subst hy
                    exact (clears_comma hnext (by decide)).trans (Clears.cons rfl (ih _ later h))
                  · split at h <;> cases h
              · cases h

/-- An array or an object is read behind its opening bracket. -/
theorem clears_container (hitem : ReadsValues item) (n : Nat) (opening : UInt8)
    (input rest : Octets) (v : Json) (h : container item n opening input = .ok (v, rest)) :
    Clears input rest := by
  have hblank := clears_skipBlank input
  unfold container at h
  cases hinput : skipBlank input with
  | nil =>
    rw [hinput] at h
    split at h <;> cases h
  | cons x xs =>
    rw [hinput] at h hblank
    refine hblank.trans ?_
    dsimp only at h
    split at h
    · split at h
      · rename_i hx
        cases h
        exact (Clears.refl rest).cons (hx ▸ rfl)
      · obtain ⟨read, hread, heq⟩ := exists_of_map_eq_ok h
        cases heq
        exact (clears_items hitem n [] (x :: xs) _ _ hread).1
    · split at h
      · rename_i hx
        cases h
        exact (Clears.refl rest).cons (hx ▸ rfl)
      · split at h
        · rename_i hx
          obtain ⟨read, hread, heq⟩ := exists_of_map_eq_ok h
          cases heq
          exact (clears_members hitem n [] xs _ _ hread).cons (hx ▸ rfl)
        · cases h

end

/-- The reader of values gets past no obstacle, however deep they nest. -/
theorem readsValues_value (n levels : Nat) : ReadsValues (value n levels) := by
  induction levels with
  | zero => exact readsValues_start _ nofun
  | succ levels ih => exact readsValues_start _ (clears_container ih n)

end Reader

/-- No text that can be read holds an obstacle. -/
theorem not_obstacle_of_parse {text : Octets} {v : Json} (h : parse text = .ok v) (s : Octets)
    (hs : s <:+ text) : ¬ Reader.Obstacle s := by
  intro hobstacle
  unfold parse at h
  cases hvalue : Reader.value text.length maxDepth text with
  | error stop =>
    rw [hvalue] at h
    cases h
  | ok read =>
    obtain ⟨v', rest⟩ := read
    rw [hvalue] at h
    dsimp only at h
    cases hrest : Reader.skipBlank rest with
    | nil =>
      have hhead : rest.head? ≠ some 0x6f := by
        intro ho
        obtain ⟨more, rfl⟩ := List.head?_eq_some_iff.mp ho
        cases hrest
      have hclears := (Reader.readsValues_value text.length maxDepth).clears hvalue hhead
      have hlast := (hclears.trans (Reader.clears_skipBlank rest)) s hobstacle hs
      rw [hrest, List.suffix_nil] at hlast
      subst hlast
      cases hobstacle
    | cons x more =>
      unfold Reader.finish at h
      rw [hrest] at h
      cases h

end Appliance.Json
