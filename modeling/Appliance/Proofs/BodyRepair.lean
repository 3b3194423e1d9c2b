import Appliance.Proofs.FrameRoundTrip
import Appliance.Proofs.JsonObstacles

/-!
# Bodies that have to be repaired

A body is read if it is a text, or if it becomes one by the repair: what follows its first zero octet
is dropped, and so is the first of two commas where they stand doubled first. Both are obstacles to
every reader, so that no text is changed by the repair, and a body with two doubled commas is beyond
it.

That the repair takes back exactly what was done to a text rests on the place of the first doubled
comma. A comma put in front of one of a text's marks makes no doubled comma further ahead: one that
started there would either run into the two commas, where its quotation mark or its o has to be, or
have its first four octets ahead of them, and these make an obstacle of the text already.
-/

namespace Appliance.Body

open Json.Reader (Obstacle)

/-- The octets in front of which a comma may be doubled, with the one that belongs there. -/
def mark : Octets := Utf8.ofString ",\"otu_stat\""

/-- A body is a text with a second comma in front of one of its marks. -/
def Doubled (text body : Octets) : Prop :=
  ∃ before after, text = before ++ mark ++ after ∧ body = before ++ 0x2c :: mark ++ after

/-- The number of places where a comma is doubled. -/
def doublings (octets : Octets) : Nat := octets.tails.countP doubledComma.isPrefixOf

/-- Octets that hold no obstacle. -/
def Clear (octets : Octets) : Prop := ∀ s, s <:+ octets → ¬ Obstacle s

/-- A text that can be read holds none. -/
theorem clear_of_parse {text : Octets} {v : Json} (h : Json.parse text = .ok v) : Clear text :=
  Json.not_obstacle_of_parse h

/-- What follows in octets without an obstacle holds none. -/
theorem Clear.of_suffix {s octets : Octets} (h : Clear octets) (hs : s <:+ octets) : Clear s :=
  fun t ht => h t (ht.trans hs)

/-- What is doubled is the comma that a mark starts with. -/
theorem doubledComma_eq : doubledComma = 0x2c :: mark := rfl

/-- The octets of a mark. -/
theorem mark_eq :
    mark = [0x2c, 0x22, 0x6f, 0x74, 0x75, 0x5f, 0x73, 0x74, 0x61, 0x74, 0x22] := rfl

/-- Where a comma is doubled there is an obstacle. -/
theorem obstacle_of_prefixed {s : Octets} (h : doubledComma <+: s) : Obstacle s := by
  obtain ⟨rest, rfl⟩ := h
  exact .commas _

/-- Where there is no obstacle no comma is doubled. -/
theorem Clear.not_prefixed {octets : Octets} (h : Clear octets) : ¬ doubledComma <+: octets :=
  fun hprefix => h octets (List.suffix_refl octets) (obstacle_of_prefixed hprefix)

/-! ## What follows the first zero octet -/

/-- Octets without an obstacle have no zero octet. -/
theorem Clear.ne_zero {octets : Octets} (h : Clear octets) : ∀ x ∈ octets, x ≠ 0 := by
  intro x hx hzero
  obtain ⟨before, after, rfl⟩ := List.mem_iff_append.mp hx
  exact h (x :: after) (List.suffix_append before _) (hzero ▸ .zero after)

/-- What has no zero octet is kept, and nothing behind it if nothing or a zero octet follows. -/
theorem takeWhile_append {body tail : Octets} (hbody : ∀ x ∈ body, x ≠ 0)
    (htail : tail = [] ∨ tail.head? = some 0) : (body ++ tail).takeWhile (· != 0) = body := by
  rw [List.takeWhile_append_of_pos (by simpa using hbody)]
  have hnone : tail.takeWhile (· != 0) = [] := by
    rcases htail with rfl | hzero
    · rfl
    · obtain ⟨more, rfl⟩ := List.head?_eq_some_iff.mp hzero
      rfl
  rw [hnone, List.append_nil]

/-- Behind what is kept there is nothing, or a zero octet comes. -/
theorem head?_dropWhile (plain : Octets) :
    plain.dropWhile (· != 0) = [] ∨ (plain.dropWhile (· != 0)).head? = some 0 := by
  have hhead := List.head?_dropWhile_not (· != 0) plain
  cases htail : plain.dropWhile (· != 0) with
  | nil => exact Or.inl rfl
  | cons x rest =>
    rw [htail] at hhead
    exact Or.inr (by simpa using hhead)

/-! ## The first doubled comma -/

/-- The octets already seen come first. -/
theorem dropComma_eq_append (done xs : Octets) :
    dropComma done xs = done.reverse ++ dropComma [] xs := by
  induction xs generalizing done with
  | nil => simp [dropComma]
  | cons x xs ih =>
    rw [dropComma, dropComma]
    split
    · rfl
    · rw [ih (x :: done), ih [x]]
      simp

/-- The first of two commas is dropped where they stand. -/
theorem dropComma_of_prefixed {x : UInt8} {xs : Octets} (h : doubledComma <+: x :: xs) :
    dropComma [] (x :: xs) = xs := by
  rw [dropComma, if_pos (List.isPrefixOf_iff_prefix.mpr h)]
  rfl

/-- An octet is kept where they do not stand. -/
theorem dropComma_of_not_prefixed {x : UInt8} {xs : Octets} (h : ¬ doubledComma <+: x :: xs) :
    dropComma [] (x :: xs) = x :: dropComma [] xs := by
  rw [dropComma, if_neg (fun hprefix => h (List.isPrefixOf_iff_prefix.mp hprefix)),
    dropComma_eq_append]
  rfl

/-- Octets without an obstacle are kept. -/
theorem Clear.dropComma_eq {xs : Octets} (h : Clear xs) : dropComma [] xs = xs := by
  induction xs with
  | nil => rfl
  | cons x xs ih =>
    rw [dropComma_of_not_prefixed h.not_prefixed, ih (h.of_suffix (List.suffix_cons x xs))]

/-- Octets are kept, or the comma in front of one of the marks of what is kept is dropped. -/
theorem dropComma_eq_or_doubled (xs : Octets) :
    dropComma [] xs = xs ∨ Doubled (dropComma [] xs) xs := by
  induction xs with
  | nil => exact Or.inl rfl
  | cons x xs ih =>
    by_cases hx : doubledComma <+: x :: xs
    · rw [dropComma_of_prefixed hx]
      obtain ⟨after, hafter⟩ := hx
      rw [doubledComma_eq, List.cons_append, List.cons.injEq] at hafter
      obtain ⟨rfl, rfl⟩ := hafter
      exact Or.inr ⟨[], after, rfl, rfl⟩
    · rw [dropComma_of_not_prefixed hx]
      rcases ih with hsame | ⟨before, after, htext, hbody⟩
      · exact Or.inl (by rw [hsame])
      · exact Or.inr ⟨x :: before, after, by rw [htext]; rfl, by rw [hbody]; rfl⟩

/-- A doubled comma that starts ahead of a mark whose comma is doubled stands in the text without
that comma already. -/
theorem obstacle_of_prefixed_cons {x : UInt8} {before after : Octets}
    (h : doubledComma <+: x :: (before ++ 0x2c :: mark ++ after)) :
    Obstacle (x :: (before ++ mark ++ after)) := by
  obtain ⟨rest, hrest⟩ := h
  rw [doubledComma_eq, mark_eq] at hrest
  match before with
  | [] | [_] | [_, _] => cases hrest
  | y :: z :: w :: before =>
    simp only [List.cons_append, List.nil_append, List.cons.injEq] at hrest
    obtain ⟨rfl, rfl, rfl, rfl, -⟩ := hrest
    exact .commas _

/-- A comma doubled in a text without an obstacle is the one that is dropped. -/
theorem dropComma_of_doubled {text body : Octets} (htext : Clear text) (h : Doubled text body) :
    dropComma [] body = text := by
  obtain ⟨before, after, rfl, rfl⟩ := h
  induction before with
  | nil => exact dropComma_of_prefixed ⟨after, rfl⟩
  | cons x before ih =>
    have hx : ¬ doubledComma <+: x :: (before ++ 0x2c :: mark ++ after) :=
      fun hprefix => htext _ (List.suffix_refl _) (obstacle_of_prefixed_cons hprefix)
    rw [List.cons_append, List.cons_append, dropComma_of_not_prefixed hx,
      ih (htext.of_suffix (List.suffix_cons x _))]
    rfl

/-- A doubled comma is an obstacle in whatever it stands. -/
theorem not_clear_of_doubled {text body : Octets} (h : Doubled text body) (tail : Octets) :
    ¬ Clear (body ++ tail) := by
  obtain ⟨before, after, -, rfl⟩ := h
  intro hclear
  refine hclear (doubledComma ++ (after ++ tail)) ⟨before, ?_⟩ (obstacle_of_prefixed ⟨_, rfl⟩)
  simp [doubledComma_eq]

/-! ## More than one doubled comma -/

/-- The places where a comma is doubled, counted from the front. -/
theorem doublings_cons (x : UInt8) (xs : Octets) :
    doublings (x :: xs) = doublings xs + if doubledComma <+: x :: xs then 1 else 0 := by
  simp [doublings, List.countP_cons]

/-- In octets without an obstacle no comma is doubled. -/
theorem Clear.doublings_eq_zero {xs : Octets} (h : Clear xs) : doublings xs = 0 := by
  induction xs with
  | nil => rfl
  | cons x xs ih =>
    rw [doublings_cons, if_neg h.not_prefixed, ih (h.of_suffix (List.suffix_cons x xs))]

/-- One doubled comma is taken back, so that of two one is left. -/
theorem doublings_le_of_clear {xs : Octets} (h : Clear (dropComma [] xs)) : doublings xs ≤ 1 := by
  induction xs with
  | nil => exact Nat.zero_le 1
  | cons x xs ih =>
    rw [doublings_cons]
    by_cases hx : doubledComma <+: x :: xs
    · rw [dropComma_of_prefixed hx] at h
      rw [h.doublings_eq_zero, if_pos hx]
    · rw [dropComma_of_not_prefixed hx] at h
      rw [if_neg hx]
      exact ih (h.of_suffix (List.suffix_cons x _))

/-! ## What is read -/

/-- A body that is a text is read as it stands, and any other one as what it is repaired to. -/
theorem parse_eq_ok_iff (plain : Octets) (v : Json) :
    parse plain = .ok v ↔
      Json.parse plain = .ok v ∨
        (∃ e, Json.parse plain = .error e) ∧ Json.parse (repair plain) = .ok v := by
  unfold parse read
  cases Json.parse plain with
  | ok w => simp [Except.map]
  | error e => cases Json.parse (repair plain) <;> simp [Except.map]

/-- The error of a body that is not read is that of the body as it stands. -/
theorem parse_error {plain : Octets} {e : Json.Error} (h : parse plain = .error e) :
    Json.parse plain = .error e := by
  unfold parse read at h
  cases hplain : Json.parse plain with
  | ok v =>
    rw [hplain] at h
    cases h
  | error e' =>
    rw [hplain] at h
    dsimp only at h
    cases hrepair : Json.parse (repair plain) with
    | ok v =>
      rw [hrepair] at h
      cases h
    | error e'' =>
      rw [hrepair] at h
      cases h
      rfl

/-- A text is not changed by the repair. -/
theorem repair_of_parse {text : Octets} {v : Json} (h : Json.parse text = .ok v) :
    repair text = text := by
  have hclear := clear_of_parse h
  have hall := takeWhile_append hclear.ne_zero (Or.inl rfl)
  rw [List.append_nil] at hall
  rw [repair, hall, hclear.dropComma_eq]

/-- A body with an obstacle is read as what it is repaired to. -/
theorem parse_of_not_clear {plain : Octets} {v : Json} (hplain : ¬ Clear plain)
    (h : Json.parse (repair plain) = .ok v) : parse plain = .ok v := by
  rw [parse_eq_ok_iff]
  cases hread : Json.parse plain with
  | ok w => exact absurd (clear_of_parse hread) hplain
  | error e => exact Or.inr ⟨⟨e, rfl⟩, h⟩

/-- A text is read with a zero octet and more behind it. -/
theorem parse_of_text {text tail : Octets} {v : Json} (h : Json.parse text = .ok v)
    (htail : tail = [] ∨ tail.head? = some 0) : parse (text ++ tail) = .ok v := by
  have hclear := clear_of_parse h
  have hrepair : repair (text ++ tail) = text := by
    rw [repair, takeWhile_append hclear.ne_zero htail, hclear.dropComma_eq]
  rcases htail with rfl | hzero
  · rw [List.append_nil, parse_eq_ok_iff]
    exact Or.inl h
  · obtain ⟨more, rfl⟩ := List.head?_eq_some_iff.mp hzero
    apply parse_of_not_clear
    · intro hall
      exact hall (0 :: more) (List.suffix_append text _) (.zero more)
    · rw [hrepair]
      exact h

/-- So is a text with a doubled comma. -/
theorem parse_of_doubled {text body : Octets} {v : Json} (h : Json.parse text = .ok v)
    (hbody : Doubled text body) (tail : Octets) (htail : tail = [] ∨ tail.head? = some 0) :
    parse (body ++ tail) = .ok v := by
  have hclear := clear_of_parse h
  have hzero : ∀ x ∈ body, x ≠ 0 := by
    obtain ⟨before, after, rfl, rfl⟩ := hbody
    intro x hx
    simp only [List.mem_append, List.mem_cons] at hx
    rcases hx with (hx | rfl | hx) | hx
    · exact hclear.ne_zero x (by simp [hx])
    · decide
    · exact hclear.ne_zero x (by simp [hx])
    · exact hclear.ne_zero x (by simp [hx])
  have hrepair : repair (body ++ tail) = text := by
    rw [repair, takeWhile_append hzero htail, dropComma_of_doubled hclear hbody]
  apply parse_of_not_clear (not_clear_of_doubled hbody tail)
  rw [hrepair]
  exact h

/-- A body is read exactly if it is a text, or if it is one, perhaps with a doubled comma, in front
of a zero octet or of nothing. -/
theorem parse_eq_ok_iff_text_or_doubled (plain : Octets) (v : Json) :
    parse plain = .ok v ↔
      Json.parse plain = .ok v ∨
        ∃ body tail, plain = body ++ tail ∧ (tail = [] ∨ tail.head? = some 0) ∧
          (Json.parse body = .ok v ∨
            ∃ text, Json.parse text = .ok v ∧ Doubled text body) := by
  constructor
  · intro h
    rcases (parse_eq_ok_iff plain v).mp h with h | ⟨-, h⟩
    · exact Or.inl h
    · refine Or.inr ⟨plain.takeWhile (· != 0), plain.dropWhile (· != 0),
        List.takeWhile_append_dropWhile.symm, head?_dropWhile plain, ?_⟩
      rw [repair] at h
      rcases dropComma_eq_or_doubled (plain.takeWhile (· != 0)) with hsame | hdoubled
      · exact Or.inl (hsame ▸ h)
      · exact Or.inr ⟨_, h, hdoubled⟩
  · rintro (h | ⟨body, tail, rfl, htail, h | ⟨text, h, hbody⟩⟩)
    · exact (parse_eq_ok_iff plain v).mpr (Or.inl h)
    · exact parse_of_text h htail
    · exact parse_of_doubled h hbody tail htail

/-- A body with two doubled commas ahead of its first zero octet is not read. -/
theorem parse_of_two_doublings {plain : Octets}
    (h : 2 ≤ doublings (plain.takeWhile (· != 0))) : ∃ e, parse plain = .error e := by
  cases hparse : parse plain with
  | error e => exact ⟨e, rfl⟩
  | ok v =>
    have hle : doublings (plain.takeWhile (· != 0)) ≤ 1 := by
      rcases (parse_eq_ok_iff plain v).mp hparse with hread | ⟨-, hread⟩
      · have hrepair := repair_of_parse hread
        have hclear := clear_of_parse hread
        rw [← hrepair, repair] at hclear
        exact doublings_le_of_clear hclear
      · exact doublings_le_of_clear (clear_of_parse hread)
    omega

/-- A body is read exactly if it is a text, or if it is one, perhaps with one comma doubled in front
of one of its marks, ahead of a zero octet or of nothing. So a text is not changed by the repair and
read with whatever comes behind a zero octet, and so it is with a comma doubled at any of its marks,
but a body with two doubled commas ahead of its first zero octet is not read. The error of a body
that is not read is that of the body as it stands, and the one that its frame is refused for. -/
theorem read_exactly_the_repairable (plain : Octets) :
    (∀ v, parse plain = .ok v ↔
      Json.parse plain = .ok v ∨
        ∃ body tail, plain = body ++ tail ∧ (tail = [] ∨ tail.head? = some 0) ∧
          (Json.parse body = .ok v ∨
            ∃ text, Json.parse text = .ok v ∧ Doubled text body)) ∧
      (∀ v, Json.parse plain = .ok v →
        repair plain = plain ∧
          ∀ garbage, parse (plain ++ 0 :: garbage) = .ok v ∧
            ∀ body, Doubled plain body →
              parse body = .ok v ∧ parse (body ++ 0 :: garbage) = .ok v) ∧
      (2 ≤ doublings (plain.takeWhile (· != 0)) → ∃ e, parse plain = .error e) ∧
      (∀ e, parse plain = .error e →
        Json.parse plain = .error e ∧
          ∀ unknown deviceId timestamp token, plain.length ≤ Frame.maxText →
            Frame.decode (Frame.wrap unknown deviceId timestamp token (token.encrypt plain))
              token = .error (.payload e)) := by
  refine ⟨parse_eq_ok_iff_text_or_doubled plain, ?_, parse_of_two_doublings, ?_⟩
  · intro v h
    refine ⟨repair_of_parse h, ?_⟩
    intro garbage
    refine ⟨parse_of_text h (Or.inr rfl), ?_⟩
    intro body hbody
    have hread := parse_of_doubled h hbody [] (Or.inl rfl)
    rw [List.append_nil] at hread
    exact ⟨hread, parse_of_doubled h hbody _ (Or.inr rfl)⟩
  · intro e h
    refine ⟨parse_error h, ?_⟩
    intro unknown deviceId timestamp token hfits
    exact Frame.decode_wrap_of_error unknown deviceId timestamp token plain e h
      ((Frame.size_le_iff token plain).mpr hfits)

/-- A doubled comma is taken back, and what follows the first zero octet is dropped. -/
example :
    parse (Utf8.ofString "\x7b\"battery\":90,,\"otu_stat\":[0,0]\x7d\x00,,\"otu_stat\"") =
      .ok (.object [("battery", .int 90), ("otu_stat", .array [.int 0, .int 0])]) := rfl

end Appliance.Body
