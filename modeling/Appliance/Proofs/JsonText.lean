import Appliance.Proofs.JsonScalars

/-!
# Values read back

The compact text of a value is read as the value with its objects sorted, if its numbers are
integers of 64 bits and it is nested no deeper than a reader goes. Every value is read in front of
what can follow it, a text that is bounded by the length of the whole; the bound on the items of a
container is met because every item has a character at least.
-/

namespace Appliance.Json

namespace Reader

/-! ## One step of a reader -/

/-- No blank is skipped in front of what is not one. -/
theorem skipBlank_cons (x : UInt8) (rest : Octets) (h : isBlank x = false) :
    skipBlank (x :: rest) = x :: rest := by
  rw [skipBlank, List.dropWhile_cons_of_neg (by simp [h])]

/-- The last item of an array. -/
theorem items_last (item : Octets → Reading Json) (m : Nat) (done : List Json) (input : Octets)
    (v : Json) (rest : Octets) (h : item input = .ok (v, 0x5d :: rest)) :
    items item (m + 1) done input = .ok ((v :: done).reverse, rest) := by
  rw [items, h]
  rfl

/-- An item of an array in front of another. -/
theorem items_comma (item : Octets → Reading Json) (m : Nat) (done : List Json) (input : Octets)
    (v : Json) (y : UInt8) (rest : Octets) (h : item input = .ok (v, 0x2c :: y :: rest))
    (hblank : isBlank y = false) (hend : y ≠ 0x5d) :
    items item (m + 1) done input = items item m (v :: done) (y :: rest) := by
  have hcomma : skipBlank (0x2c :: y :: rest) = 0x2c :: y :: rest := rfl
  have hother : (0x2c : UInt8) ≠ 0x5d := by decide
  rw [items, h]
  dsimp only
  rw [hcomma]
  dsimp only
  rw [if_neg hother, if_pos rfl, skipBlank_cons y rest hblank]
  dsimp only
  rw [if_neg hend]

/-- The last member of an object. -/
theorem members_last (item : Octets → Reading Json) (m : Nat) (done : List (String × Json))
    (input inner : Octets) (key : String) (v : Json) (rest : Octets)
    (hkey : string input = .ok (key, 0x3a :: inner)) (hv : item inner = .ok (v, 0x7d :: rest)) :
    members item (m + 1) done input = .ok ((insertDescending key v done).reverse, rest) := by
  have hcolon : colon (0x3a :: inner) = .ok inner := rfl
  rw [members, hkey]
  dsimp only
  rw [hcolon]
  dsimp only
  rw [hv]
  rfl

/-- A member of an object in front of another. -/
theorem members_comma (item : Octets → Reading Json) (m : Nat) (done : List (String × Json))
    (input inner : Octets) (key : String) (v : Json) (rest : Octets)
    (hkey : string input = .ok (key, 0x3a :: inner))
    (hv : item inner = .ok (v, 0x2c :: 0x22 :: rest)) :
    members item (m + 1) done input = members item m (insertDescending key v done) rest := by
  have hcolon : colon (0x3a :: inner) = .ok inner := rfl
  rw [members, hkey]
  dsimp only
  rw [hcolon]
  dsimp only
  rw [hv]
  rfl

/-- What is nested in brackets is read one level below. -/
theorem value_bracket (n levels : Nat) (rest : Octets) :
    value n (levels + 1) (0x5b :: rest) = container (value n levels) n 0x5b rest := rfl

/-- What is nested in braces is read one level below. -/
theorem value_brace (n levels : Nat) (rest : Octets) :
    value n (levels + 1) (0x7b :: rest) = container (value n levels) n 0x7b rest := rfl

/-- An array with items. -/
theorem container_items (item : Octets → Reading Json) (n : Nat) (y : UInt8) (rest rest' : Octets)
    (xs : List Json) (hblank : isBlank y = false) (hend : y ≠ 0x5d)
    (h : items item n [] (y :: rest) = .ok (xs, rest')) :
    container item n 0x5b (y :: rest) = .ok (.array xs, rest') := by
  rw [container, if_pos rfl, skipBlank_cons y rest hblank]
  dsimp only
  rw [if_neg hend, h]
  rfl

/-- An object with members. -/
theorem container_members (item : Octets → Reading Json) (n : Nat) (rest rest' : Octets)
    (ms : List (String × Json)) (h : members item n [] rest = .ok (ms, rest')) :
    container item n 0x7b (0x22 :: rest) = .ok (.object ms, rest') := by
  have hopen : container item n 0x7b (0x22 :: rest) =
      (members item n [] rest).map fun read => (.object read.1, read.2) := rfl
  rw [hopen, h]
  rfl

/-! ## Values that nest nothing -/

/-- A quotation mark starts a string. -/
theorem value_quote (n levels : Nat) (rest : Octets) :
    value n levels (0x22 :: rest) = (string rest).map fun (s, rest) => (.string s, rest) := by
  cases levels <;> rfl

/-- A minus starts a negative number. -/
theorem value_minus (n levels : Nat) (rest : Octets) :
    value n levels (0x2d :: rest) =
      (unsignedNumber true rest).map fun (n, rest) => (.number n, rest) := by
  cases levels <;> rfl

/-- A digit is no blank and starts nothing but a number. -/
theorem ne_of_isDigit (x : UInt8) (h : isDigit x = true) :
    isBlank x = false ∧ x ≠ 0x22 ∧ x ≠ 0x2d ∧ x ≠ 0x5d := by
  simp only [isDigit, Bool.and_eq_true, decide_eq_true_eq, UInt8.le_iff_toNat_le,
    UInt8.reduceToNat] at h
  simp only [isBlank, Bool.or_eq_false_iff, beq_eq_false_iff_ne, ne_eq, ← UInt8.toNat_inj,
    UInt8.reduceToNat]
  omega

/-- A digit starts a number that is not negative. -/
theorem value_digit (n levels : Nat) (x : UInt8) (rest : Octets) (h : isDigit x = true) :
    value n levels (x :: rest) =
      (unsignedNumber false (x :: rest)).map fun (n, rest) => (.number n, rest) := by
  obtain ⟨hblank, hquote, hminus, -⟩ := ne_of_isDigit x h
  have hstart (nested : UInt8 → Octets → Reading Json) : start nested (x :: rest) =
      (unsignedNumber false (x :: rest)).map fun (n, rest) => (.number n, rest) := by
    rw [start, skipBlank_cons x rest hblank]
    dsimp only
    rw [if_neg hquote, if_neg hminus, if_pos h]
  cases levels with
  | zero => exact hstart _
  | succ levels => exact hstart _

/-- The digits of a number start with a digit. -/
theorem exists_digit (n : Nat) :
    ∃ x tail, Utf8.encode (Nat.toDigits 10 n) = x :: tail ∧ isDigit x = true := by
  obtain ⟨c, cs, hcs⟩ := List.exists_cons_of_ne_nil (Nat.toDigits_ne_nil (n := n) (b := 10))
  have hmem : c ∈ Nat.toDigits 10 n := by
    rw [hcs]
    exact List.mem_cons_self
  obtain ⟨x, hx, hdigit, -⟩ := utf8EncodeChar_digit c
    (Nat.isDigit_of_mem_toDigits (by decide) (by decide) hmem)
  refine ⟨x, Utf8.encode cs, ?_, hdigit⟩
  rw [hcs, Utf8.encode_cons, hx, List.singleton_append]

/-- An integer that fits is read back in front of what can follow it. -/
theorem value_integerChars (n levels : Nat) (k : Int) (rest : Octets) (hrest : Follows rest)
    (hlow : -9223372036854775808 ≤ k) (hhigh : k < 18446744073709551616) :
    value n levels (Utf8.encode (Number.integerChars k) ++ rest) =
      .ok (.number (.integer k), rest) := by
  have hread (negative : Bool) := unsignedNumber_toDigits negative k.natAbs rest (by omega)
    (Follows.digitNext_eq rest hrest)
  unfold Number.integerChars
  split
  · have hminus : Utf8.encode ('-' :: Nat.toDigits 10 k.natAbs) ++ rest =
        0x2d :: (Utf8.encode (Nat.toDigits 10 k.natAbs) ++ rest) := rfl
    have hk : -(k.natAbs : Int) = k := by omega
    rw [hminus, value_minus, hread,
      afterInteger_negative_of_follows k.natAbs rest hrest (by omega) (by omega), hk]
    rfl
  · obtain ⟨x, tail, hoctets, hdigit⟩ := exists_digit k.natAbs
    have hk : (k.natAbs : Int) = k := by omega
    have hfirst := hread false
    rw [hoctets, List.cons_append] at hfirst ⊢
    rw [value_digit n levels x _ hdigit, hfirst, afterInteger_of_follows k.natAbs rest hrest, hk]
    rfl

/-- A string is read back. -/
theorem value_stringChars (n levels : Nat) (s : String) (rest : Octets) :
    value n levels (Utf8.encode (stringChars s) ++ rest) = .ok (.string s, rest) := by
  obtain ⟨tail, htail, hs⟩ := string_stringChars s rest
  rw [htail, value_quote, hs]
  rfl

/-- The octets of a value start with one that is neither blank nor the end of an array. -/
theorem exists_head (v : Json) (hv : v.Integral) :
    ∃ x tail, Utf8.encode v.chars = x :: tail ∧ isBlank x = false ∧ x ≠ 0x5d := by
  cases v with
  | null => exact ⟨0x6e, _, rfl, by decide⟩
  | bool b =>
    cases b with
    | true => exact ⟨0x74, _, rfl, by decide⟩
    | false => exact ⟨0x66, _, rfl, by decide⟩
  | number k =>
    cases k with
    | float x => exact absurd hv (by simp [Integral])
    | integer k =>
      rw [chars, Number.chars]
      unfold Number.integerChars
      split
      · exact ⟨0x2d, _, rfl, by decide⟩
      · obtain ⟨x, tail, hoctets, hdigit⟩ := exists_digit k.natAbs
        obtain ⟨hblank, -, -, hend⟩ := ne_of_isDigit x hdigit
        exact ⟨x, tail, hoctets, hblank, hend⟩
  | string s => exact ⟨0x22, _, rfl, by decide⟩
  | array xs => exact ⟨0x5b, _, rfl, by decide⟩
  | object ms => exact ⟨0x7b, _, rfl, by decide⟩

end Reader

/-! ## Values -/

/-- The characters of some items start with those of the first one. -/
theorem exists_itemsChars_cons (x : Json) (xs : List Json) :
    ∃ cs, itemsChars (x :: xs) = x.chars ++ cs := by
  cases xs with
  | nil => exact ⟨[], (List.append_nil _).symm⟩
  | cons y xs => exact ⟨_, rfl⟩

/-- The octets of some items start with one that is neither blank nor the end of an array. -/
theorem exists_items_head (x : Json) (xs : List Json) (hx : x.Integral) (rest : Octets) :
    ∃ y tail, Utf8.encode (itemsChars (x :: xs)) ++ rest = y :: tail ∧ Reader.isBlank y = false ∧
      y ≠ 0x5d := by
  obtain ⟨cs, hcs⟩ := exists_itemsChars_cons x xs
  obtain ⟨y, tail, hy, hhead⟩ := Reader.exists_head x hx
  refine ⟨y, tail ++ Utf8.encode cs ++ rest, ?_, hhead⟩
  rw [hcs, Utf8.encode_append, hy]
  rfl

/-- There are no more items than characters. -/
theorem length_le_length_itemsChars : (xs : List Json) → IntegralItems xs →
    xs.length ≤ (itemsChars xs).length
  | [], _ => Nat.le_refl 0
  | [x], h => by
    obtain ⟨y, tail, hy, -⟩ := Reader.exists_head x h.1
    have hne : x.chars ≠ [] := by
      intro hnil
      rw [hnil] at hy
      cases hy
    exact List.length_pos_iff.mpr hne
  | x :: y :: xs, h => by
    have := length_le_length_itemsChars (y :: xs) h.2
    simp only [itemsChars, List.length_append, List.length_cons] at this ⊢
    omega

/-- There are no more members than characters. -/
theorem length_le_length_membersChars : (ms : List (String × Json)) →
    ms.length ≤ (membersChars ms).length
  | [] => Nat.le_refl 0
  | [(k, x)] => by
    simp only [membersChars, List.length_append, List.length_cons, List.length_nil]
    omega
  | (k, x) :: m :: ms => by
    have := length_le_length_membersChars (m :: ms)
    simp only [membersChars, List.length_append, List.length_cons] at this ⊢
    omega

/-- Members taken up one after another by a reader, behind those already read. -/
def takeUp (done members : List (String × Json)) : List (String × Json) :=
  members.foldl (fun sorted (k, v) => insertDescending k v sorted) done

open Reader

mutual

/-- A value is read back in front of what can follow it. -/
theorem value_chars (n : Nat) : (v : Json) → v.Integral → (levels : Nat) → v.depth ≤ levels →
    v.chars.length ≤ n → (rest : Octets) → Follows rest →
    value n levels (Utf8.encode v.chars ++ rest) = .ok (v.sorted, rest)
  | .null, _, levels, _, _, rest, _ => by cases levels <;> rfl
  | .bool true, _, levels, _, _, rest, _ => by cases levels <;> rfl
  | .bool false, _, levels, _, _, rest, _ => by cases levels <;> rfl
  | .number (.integer k), hv, levels, _, _, rest, hrest =>
    value_integerChars n levels k rest hrest hv.1 hv.2
  | .number (.float _), hv, _, _, _, _, _ => hv.elim
  | .string s, _, levels, _, _, rest, _ => value_stringChars n levels s rest
  | .array [], _, levels, hdepth, _, rest, _ => by
    obtain ⟨levels, rfl⟩ := Nat.exists_eq_add_of_le' hdepth
    rfl
  | .array (x :: xs), hv, levels, hdepth, hn, rest, _ => by
    obtain ⟨levels, rfl⟩ := Nat.exists_eq_add_of_le' (Nat.le_trans (Nat.le_add_left 1 _) hdepth)
    have hlength := length_le_length_itemsChars (x :: xs) hv
    simp only [chars, List.length_append, List.length_cons, List.length_nil] at hn
    have hitems := items_itemsChars n (x :: xs) (List.cons_ne_nil x xs) hv levels
      (Nat.le_of_succ_le_succ hdepth) (by omega) n (by omega) [] rest
    obtain ⟨y, tail, hy, hblank, hend⟩ := exists_items_head x xs hv.1 (0x5d :: rest)
    have hopen : Utf8.encode (chars (.array (x :: xs))) ++ rest =
        0x5b :: (Utf8.encode (itemsChars (x :: xs)) ++ 0x5d :: rest) :=
      Utf8.encode_enclosed '[' ']' (itemsChars (x :: xs)) rest
    rw [hy] at hitems hopen
    rw [hopen, value_bracket, container_items _ n y tail rest _ hblank hend hitems]
    rfl
  | .object [], _, levels, hdepth, _, rest, _ => by
    obtain ⟨levels, rfl⟩ := Nat.exists_eq_add_of_le' hdepth
    rfl
  | .object ((k, x) :: ms), hv, levels, hdepth, hn, rest, _ => by
    obtain ⟨levels, rfl⟩ := Nat.exists_eq_add_of_le' (Nat.le_trans (Nat.le_add_left 1 _) hdepth)
    have hlength := length_le_length_membersChars ((k, x) :: ms)
    simp only [chars, List.length_append, List.length_cons, List.length_nil] at hn
    obtain ⟨tail, htail, hmembers⟩ := members_membersChars n ((k, x) :: ms)
      (List.cons_ne_nil _ ms) hv levels (Nat.le_of_succ_le_succ hdepth) (by omega) n (by omega) []
      rest
    have hopen : Utf8.encode (chars (.object ((k, x) :: ms))) ++ rest =
        0x7b :: (Utf8.encode (membersChars ((k, x) :: ms)) ++ 0x7d :: rest) :=
      Utf8.encode_enclosed '\x7b' '\x7d' (membersChars ((k, x) :: ms)) rest
    rw [hopen, htail, value_brace, container_members _ n tail rest _ hmembers]
    rfl

/-- The items of an array are read back behind those already read. -/
theorem items_itemsChars (n : Nat) : (xs : List Json) → xs ≠ [] → IntegralItems xs →
    (levels : Nat) → depthItems xs ≤ levels → (itemsChars xs).length ≤ n →
    (m : Nat) → xs.length ≤ m → (done : List Json) → (rest : Octets) →
    items (value n levels) m done (Utf8.encode (itemsChars xs) ++ 0x5d :: rest) =
      .ok (done.reverse ++ sortedItems xs, rest)
  | [], hne, _, _, _, _, _, _, _, _ => absurd rfl hne
  | [x], _, hv, levels, hdepth, hn, m, hm, done, rest => by
    obtain ⟨m, rfl⟩ := Nat.exists_eq_add_of_le' hm
    have hx := value_chars n x hv.1 levels (Nat.le_trans (Nat.le_max_left _ _) hdepth) hn
      (0x5d :: rest) (.bracket rest)
    have hlast := items_last _ m done _ x.sorted rest hx
    rw [List.reverse_cons] at hlast
    exact hlast
  | x :: y :: xs, _, hv, levels, hdepth, hn, m, hm, done, rest => by
    obtain ⟨m, rfl⟩ := Nat.exists_eq_add_of_le' (Nat.le_trans (Nat.le_add_left 1 _) hm)
    simp only [itemsChars, List.length_append, List.length_cons] at hn hm
    obtain ⟨hdepthx, hdepthxs⟩ := Nat.max_le.mp hdepth
    have hxs := items_itemsChars n (y :: xs) (List.cons_ne_nil y xs) hv.2 levels hdepthxs
      (by omega) m (Nat.le_of_succ_le_succ hm) (x.sorted :: done) rest
    obtain ⟨z, tail, hz, hblank, hend⟩ := exists_items_head y xs hv.2.1 (0x5d :: rest)
    have hx := value_chars n x hv.1 levels hdepthx (by omega)
      (0x2c :: (Utf8.encode (itemsChars (y :: xs)) ++ 0x5d :: rest)) (.comma _)
    have hsplit : Utf8.encode (itemsChars (x :: y :: xs)) ++ 0x5d :: rest =
        Utf8.encode x.chars ++ 0x2c :: (Utf8.encode (itemsChars (y :: xs)) ++ 0x5d :: rest) := by
      rw [itemsChars, Utf8.encode_append, List.append_assoc]
      rfl
    rw [hz] at hx hsplit hxs
    rw [hsplit, items_comma _ m done _ x.sorted z tail hx hblank hend, hxs, List.reverse_cons,
      List.append_assoc]
    rfl

/-- The members of an object are read back behind those already read. -/
theorem members_membersChars (n : Nat) : (ms : List (String × Json)) → ms ≠ [] →
    IntegralMembers ms → (levels : Nat) → depthMembers ms ≤ levels →
    (membersChars ms).length ≤ n → (m : Nat) → ms.length ≤ m →
    (done : List (String × Json)) → (rest : Octets) →
    ∃ tail, Utf8.encode (membersChars ms) ++ 0x7d :: rest = 0x22 :: tail ∧
      members (value n levels) m done tail =
        .ok ((takeUp done (sortedMembers ms)).reverse, rest)
  | [], hne, _, _, _, _, _, _, _, _ => absurd rfl hne
  | [(k, x)], _, hv, levels, hdepth, hn, m, hm, done, rest => by
    obtain ⟨m, rfl⟩ := Nat.exists_eq_add_of_le' hm
    simp only [membersChars, List.length_append, List.length_cons] at hn
    have hx := value_chars n x hv.1 levels (Nat.le_trans (Nat.le_max_left _ _) hdepth) (by omega)
      (0x7d :: rest) (.brace rest)
    obtain ⟨tail, htail, hkey⟩ := string_stringChars k
      (0x3a :: (Utf8.encode x.chars ++ 0x7d :: rest))
    refine ⟨tail, ?_, members_last _ m done tail _ k x.sorted rest hkey hx⟩
    rw [← htail, membersChars, Utf8.encode_append, List.append_assoc]
    rfl
  | (k, x) :: (l, y) :: ms, _, hv, levels, hdepth, hn, m, hm, done, rest => by
    obtain ⟨m, rfl⟩ := Nat.exists_eq_add_of_le' (Nat.le_trans (Nat.le_add_left 1 _) hm)
    simp only [membersChars, List.length_append, List.length_cons] at hn hm
    obtain ⟨hdepthx, hdepthms⟩ := Nat.max_le.mp hdepth
    obtain ⟨next, hnext, hms⟩ := members_membersChars n ((l, y) :: ms)
      (List.cons_ne_nil _ ms) hv.2 levels hdepthms (by omega) m (Nat.le_of_succ_le_succ hm)
      (insertDescending k x.sorted done) rest
    have hx := value_chars n x hv.1 levels hdepthx (by omega) (0x2c :: 0x22 :: next) (.comma _)
    obtain ⟨tail, htail, hkey⟩ := string_stringChars k
      (0x3a :: (Utf8.encode x.chars ++ 0x2c :: 0x22 :: next))
    refine ⟨tail, ?_, ?_⟩
    · rw [← htail, ← hnext, membersChars, Utf8.encode_append, List.append_assoc, Utf8.encode_cons,
        Utf8.encode_append, Utf8.encode_cons]
      simp only [List.append_assoc]
      rfl
    · rw [members_comma _ m done tail _ k x.sorted next hkey hx, hms]
      rfl

end

/-! ## Sorted values -/

/-- A member with a greater key than all others goes in front of them. -/
theorem insertDescending_of_lt (key : String) (v : Json) (done : List (String × Json))
    (h : ∀ m ∈ done, m.1 < key) : insertDescending key v done = (key, v) :: done := by
  cases done with
  | nil => rfl
  | cons m done =>
    obtain ⟨k, x⟩ := m
    rw [insertDescending, if_pos (h (k, x) List.mem_cons_self)]

/-- Members in ascending order of their keys are taken up in the opposite order. -/
theorem takeUp_of_ascending (ms : List (String × Json)) (h : Ascending ms) :
    ∀ done : List (String × Json), (∀ m ∈ done, ∀ n ∈ ms, m.1 < n.1) →
      takeUp done ms = ms.reverse ++ done := by
  induction ms with
  | nil =>
    intro done _
    rfl
  | cons m ms ih =>
    intro done hdone
    obtain ⟨hm, hms⟩ := List.pairwise_cons.mp h
    have hinsert := insertDescending_of_lt m.1 m.2 done
      (fun l hl => hdone l hl m List.mem_cons_self)
    have hnext : ∀ l ∈ m :: done, ∀ n ∈ ms, l.1 < n.1 := by
      intro l hl n hn
      rcases List.mem_cons.mp hl with rfl | hl
      · exact hm n hn
      · exact hdone l hl n (List.mem_cons_of_mem m hn)
    have hstep : takeUp done (m :: ms) = takeUp (insertDescending m.1 m.2 done) ms := rfl
    rw [hstep, hinsert, ih hms (m :: done) hnext, List.reverse_cons, List.append_assoc]
    rfl

/-- Members in ascending order of their keys stay as they are. -/
theorem sortMembers_of_ascending (ms : List (String × Json)) (h : Ascending ms) :
    sortMembers ms = ms := by
  have htake := takeUp_of_ascending ms h [] (fun m hm => absurd hm List.not_mem_nil)
  rw [takeUp, List.append_nil] at htake
  rw [sortMembers, htake, List.reverse_reverse]

mutual

/-- A value that is sorted stays as it is. -/
theorem sorted_eq_self : (v : Json) → v.Sorted → v.sorted = v
  | .null, _ | .bool _, _ | .number _, _ | .string _, _ => rfl
  | .array xs, h => by rw [sorted, sortedItems_eq_self xs h]
  | .object ms, h => by
    rw [sorted, sortedMembers_eq_self ms h.2, sortMembers_of_ascending ms h.1]

/-- Values that are sorted stay as they are. -/
theorem sortedItems_eq_self : (xs : List Json) → SortedItems xs → sortedItems xs = xs
  | [], _ => rfl
  | x :: xs, h => by rw [sortedItems, sorted_eq_self x h.1, sortedItems_eq_self xs h.2]

/-- Members whose values are sorted stay as they are. -/
theorem sortedMembers_eq_self : (ms : List (String × Json)) → SortedMembers ms →
    sortedMembers ms = ms
  | [], _ => rfl
  | (k, x) :: ms, h => by
    rw [sortedMembers, sorted_eq_self x h.1, sortedMembers_eq_self ms h.2]

end

/-- The compact text of a value is read as the value with its objects sorted. -/
theorem parse_octets (v : Json) (hv : v.Integral) (hdepth : v.depth ≤ maxDepth) :
    parse v.octets = .ok v.sorted := by
  rw [octets_eq]
  have hvalue := value_chars (Utf8.encode v.chars).length v hv maxDepth hdepth
    (Utf8.length_le_length_encode v.chars) [] .nothing
  rw [List.append_nil] at hvalue
  unfold parse
  rw [hvalue]
  rfl

end Appliance.Json
