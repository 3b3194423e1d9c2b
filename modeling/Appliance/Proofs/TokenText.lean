import Appliance.Proofs.Utf8
import Appliance.Token
import Mathlib.Data.List.DropRight

/-!
# Tokens as text

A text is read as a token exactly if it is thirty-two hexadecimal digits between blanks, and the token is
written as these digits in lower case. Blanks are characters, while lengths and places count octets. The
two do not meet: a text whose octets are all digits has no character of more than one octet, and of any
other text the first octet that is no digit is named, even if it is only a part of a character.

Nothing here reads a written token digit by digit. Its digits are those of a token by the reading of any
digits, and as they decide the token, it is the one that was written.
-/

namespace Appliance

/-! ## Blanks at the ends -/

/-- A text is what is left of another without the blanks at its ends. -/
structure Trimmed (whole text : List Char) : Prop where
  split : ∃ left right, whole = left ++ (text ++ right) ∧
    (∀ c ∈ left, isBlank c = true) ∧ ∀ c ∈ right, isBlank c = true
  first : ∀ h : text ≠ [], ¬ isBlank (text.head h) = true
  last : ∀ h : text ≠ [], ¬ isBlank (text.getLast h) = true

/-- Trimming leaves a text without the blanks at its ends. -/
theorem trimmed_trimBlanks (cs : List Char) : Trimmed cs (trimBlanks cs) := by
  have hpart : trimBlanks cs <+: cs.dropWhile isBlank := List.rdropWhile_prefix isBlank _
  refine ⟨⟨cs.takeWhile isBlank, (cs.dropWhile isBlank).rtakeWhile isBlank, ?_, ?_, ?_⟩, ?_, ?_⟩
  · have hright : trimBlanks cs ++ (cs.dropWhile isBlank).rtakeWhile isBlank =
        cs.dropWhile isBlank := List.rdropWhile_append_rtakeWhile
    rw [hright, List.takeWhile_append_dropWhile]
  · exact fun c hc => List.mem_takeWhile_imp hc
  · exact fun c hc => List.mem_rtakeWhile_imp hc
  · intro h
    have hne : cs.dropWhile isBlank ≠ [] := hpart.ne_nil h
    rw [hpart.head h, List.head_dropWhile_not isBlank hne]
    exact Bool.false_ne_true
  · exact List.rdropWhile_last_not isBlank (cs.dropWhile isBlank)

/-- Nothing else is left by trimming. -/
theorem Trimmed.trimBlanks_eq {whole text : List Char} (h : Trimmed whole text) :
    trimBlanks whole = text := by
  obtain ⟨⟨left, right, rfl, hleft, hright⟩, hfirst, hlast⟩ := h
  have hend (cs : List Char) : (cs ++ right).rdropWhile isBlank = cs.rdropWhile isBlank := by
    rw [List.rdropWhile, List.reverse_append, List.dropWhile_append_of_pos]
    · rfl
    · exact fun c hc => hright c (List.mem_reverse.mp hc)
  have hstart : trimBlanks (left ++ (text ++ right)) =
      ((text ++ right).dropWhile isBlank).rdropWhile isBlank := by
    rw [trimBlanks, List.dropWhile_append_of_pos hleft]
    rfl
  rw [hstart]
  cases text with
  | nil =>
    rw [List.nil_append, List.dropWhile_eq_nil_iff.mpr hright]
    rfl
  | cons c cs =>
    have hc : ¬ isBlank c = true := hfirst (List.cons_ne_nil c cs)
    rw [List.cons_append, List.dropWhile_cons_of_neg hc, ← List.cons_append, hend]
    exact List.rdropWhile_eq_self_iff.mpr hlast

/-! ## Hexadecimal digits -/

namespace Hex

/-- An octet is a hexadecimal digit of either case. -/
def IsDigit (x : UInt8) : Prop := Char.ofNat x.toNat ∈ "0123456789abcdefABCDEF".toList

instance (x : UInt8) : Decidable (IsDigit x) := inferInstanceAs (Decidable (_ ∈ _))

/-- The character of an octet in lower case. -/
def lowercase (x : UInt8) : Char := (Char.ofNat x.toNat).toLower

/-- What holds of all numbers of eight bits holds of all octets. -/
theorem forall_octet {p : UInt8 → Prop} (h : ∀ n : Fin 256, p (UInt8.ofNat n)) (x : UInt8) : p x := by
  have hx := h ⟨x.toNat, x.toNat_lt⟩
  rwa [UInt8.ofNat_toNat] at hx

/-- The octets that have a value are the digits. -/
theorem value?_eq_none_iff (x : UInt8) : value? x = none ↔ ¬ IsDigit x := by
  revert x
  exact forall_octet (by decide +kernel)

/-- A digit is a character of seven bits. -/
theorem IsDigit.toNat_lt {x : UInt8} (h : IsDigit x) : x.toNat < 0x80 := by
  have hall : ∀ y, IsDigit y → y.toNat < 0x80 := forall_octet (by decide +kernel)
  exact hall x h

/-- A digit has a value. -/
theorem IsDigit.exists_value? {x : UInt8} (h : IsDigit x) : ∃ v, value? x = some v :=
  Option.ne_none_iff_exists'.mp fun hnone => (value?_eq_none_iff x).mp hnone h

/-- The value of a digit is below sixteen, and is written as the digit in lower case. -/
theorem digit_of_value? (x : UInt8) :
    ∀ v ∈ value? x, v.toNat < 16 ∧ digit v.toNat = lowercase x := by
  revert x
  exact forall_octet (by decide +kernel)

/-- The octet that two digits spell is written as these digits in lower case. -/
theorem ofOctet_of_value? {x y high low : UInt8} (hx : value? x = some high)
    (hy : value? y = some low) : ofOctet (high * 16 + low) = [lowercase x, lowercase y] := by
  obtain ⟨hhigh, hxdigit⟩ := digit_of_value? x high hx
  obtain ⟨hlow, hydigit⟩ := digit_of_value? y low hy
  have hboth : (high * 16 + low).toNat = high.toNat * 16 + low.toNat := by
    have hsixteen : (16 : UInt8).toNat = 16 := rfl
    rw [UInt8.toNat_add, UInt8.toNat_mul, hsixteen]
    omega
  have hquotient : (high.toNat * 16 + low.toNat) / 16 = high.toNat := by omega
  have hrest : (high.toNat * 16 + low.toNat) % 16 = low.toNat := by omega
  rw [ofOctet, hboth, hquotient, hrest, hxdigit, hydigit]

/-- Two digits in front of others are read as one octet. -/
theorem decodeFrom_pair {place : Nat} {done rest : Octets} {x y high low : UInt8}
    (hx : value? x = some high) (hy : value? y = some low) :
    decodeFrom place done (x :: y :: rest) =
      decodeFrom (place + 2) ((high * 16 + low) :: done) rest := by
  rw [decodeFrom, hx, hy]

/-- Digits in pairs are read as octets that are written as the digits in lower case. -/
theorem exists_decodeFrom_of_digits (place : Nat) (done : Octets) :
    ∀ digits : Octets, digits.length % 2 = 0 → (∀ x ∈ digits, IsDigit x) →
      ∃ octets, decodeFrom place done digits = .ok (done.reverse ++ octets) ∧
        octets.flatMap ofOctet = digits.map lowercase
  | [], _, _ => ⟨[], by rw [decodeFrom, List.append_nil], rfl⟩
  | [x], heven, _ => nomatch heven
  | x :: y :: rest, heven, hdigits => by
    rw [List.forall_mem_cons, List.forall_mem_cons] at hdigits
    obtain ⟨hx, hy, hrest⟩ := hdigits
    obtain ⟨high, hhigh⟩ := hx.exists_value?
    obtain ⟨low, hlow⟩ := hy.exists_value?
    obtain ⟨octets, hread, hwritten⟩ :=
      exists_decodeFrom_of_digits (place + 2) ((high * 16 + low) :: done) rest
        (by rw [List.length_cons, List.length_cons] at heven; omega) hrest
    refine ⟨(high * 16 + low) :: octets, ?_, ?_⟩
    · rw [decodeFrom_pair hhigh hlow, hread, List.reverse_cons, List.append_assoc]
      rfl
    · rw [List.flatMap_cons, ofOctet_of_value? hhigh hlow, hwritten]
      rfl

/-- The first octet that is no digit is named with its place. -/
theorem decodeFrom_of_badDigit {x : UInt8} (hx : ¬ IsDigit x) (after : Octets) (place : Nat)
    (done : Octets) :
    ∀ before : Octets, (∀ y ∈ before, IsDigit y) →
      decodeFrom place done (before ++ x :: after) = .error (.badDigit x (place + before.length))
  | [], _ => by
    have hnone := (value?_eq_none_iff x).mpr hx
    cases after <;> simp [decodeFrom, hnone]
  | [y], hbefore => by
    have hnone := (value?_eq_none_iff x).mpr hx
    obtain ⟨high, hhigh⟩ := (hbefore y List.mem_cons_self).exists_value?
    simp [decodeFrom, hhigh, hnone]
  | y :: z :: before, hbefore => by
    rw [List.forall_mem_cons, List.forall_mem_cons] at hbefore
    obtain ⟨hy, hz, hrest⟩ := hbefore
    obtain ⟨high, hhigh⟩ := hy.exists_value?
    obtain ⟨low, hlow⟩ := hz.exists_value?
    have hlength : place + 2 + before.length = place + (y :: z :: before).length := by
      rw [List.length_cons, List.length_cons]
      omega
    rw [List.cons_append, List.cons_append, decodeFrom_pair hhigh hlow,
      decodeFrom_of_badDigit hx after (place + 2) _ before hrest, hlength]

/-- Among octets that are not all digits there is a first that is none. -/
theorem exists_badDigit {octets : Octets} (h : ¬ ∀ x ∈ octets, IsDigit x) :
    ∃ before x after, octets = before ++ x :: after ∧ (∀ y ∈ before, IsDigit y) ∧
      ¬ IsDigit x := by
  cases hfind : octets.find? fun x => !decide (IsDigit x) with
  | none => exact absurd (by simpa using hfind) h
  | some x =>
    obtain ⟨hx, before, after, hsplit, hbefore⟩ := List.find?_eq_some_iff_append.mp hfind
    exact ⟨before, x, after, hsplit, by simpa using hbefore, by simpa using hx⟩

/-- The characters of octets that are digits are these in lower case. -/
theorem map_lowercase_encode {text : List Char} (h : ∀ x ∈ Utf8.encode text, IsDigit x) :
    (Utf8.encode text).map lowercase = text.map Char.toLower := by
  induction text with
  | nil => rfl
  | cons c cs ih =>
    rw [Utf8.encode_cons, List.forall_mem_append] at h
    obtain ⟨hc, hcs⟩ := h
    -- A character of several octets has none of seven bits.
    have hlt : c.toNat < 0x80 := by
      by_contra hge
      obtain ⟨x, hx⟩ := List.exists_mem_of_ne_nil _ (String.utf8EncodeChar_ne_nil (c := c))
      have := Utf8.le_of_mem_utf8EncodeChar c (Nat.not_lt.mp hge) x hx
      have := (hc x hx).toNat_lt
      omega
    have hnumber : (UInt8.ofNat c.toNat).toNat = c.toNat := by
      rw [UInt8.toNat_ofNat', Nat.mod_eq_of_lt (by omega)]
    rw [Utf8.encode_cons, Utf8.utf8EncodeChar_of_lt c hlt, List.singleton_append, List.map_cons,
      List.map_cons, ih hcs, lowercase, hnumber, Char.ofNat_toNat]

/-! ### Digits that are written -/

/-- A value below sixteen is written with a digit in lower case, which is one octet. -/
theorem written_digit : ∀ n < 16, isBlank (digit n) = false ∧ (digit n).toLower = digit n ∧
    (String.utf8EncodeChar (digit n)).length = 1 ∧
      ∀ y ∈ String.utf8EncodeChar (digit n), IsDigit y := by
  decide +kernel

/-- What octets are written with are the digits of values below sixteen. -/
theorem exists_eq_digit {x : UInt8} {c : Char} (h : c ∈ ofOctet x) : ∃ n < 16, c = digit n := by
  have hx := x.toNat_lt
  rw [ofOctet, List.mem_pair] at h
  obtain rfl | rfl := h
  · exact ⟨_, by omega, rfl⟩
  · exact ⟨_, by omega, rfl⟩

/-- An octet is written with two digits. -/
@[simp] theorem length_flatMap_ofOctet (xs : Octets) :
    (xs.flatMap ofOctet).length = 2 * xs.length := by
  induction xs with
  | nil => rfl
  | cons x xs ih =>
    have htwo : (ofOctet x).length = 2 := rfl
    rw [List.flatMap_cons, List.length_append, htwo, ih, List.length_cons]
    omega

/-- Values below sixteen that are written alike are the same. -/
theorem digit_inj : ∀ m < 16, ∀ n < 16, digit m = digit n → m = n := by
  decide +kernel

/-- Octets that are written alike are the same. -/
theorem flatMap_ofOctet_inj {xs ys : Octets} (h : xs.flatMap ofOctet = ys.flatMap ofOctet) :
    xs = ys := by
  have hone {x y : UInt8} (hsame : ofOctet x = ofOctet y) : x = y := by
    have hx := x.toNat_lt
    have hy := y.toNat_lt
    simp only [ofOctet, List.cons.injEq, and_true] at hsame
    have hhigh := digit_inj _ (by omega) _ (by omega) hsame.1
    have hlow := digit_inj _ (by omega) _ (by omega) hsame.2
    exact UInt8.toNat_inj.mp (by omega)
  induction xs generalizing ys with
  | nil =>
    cases ys with
    | nil => rfl
    | cons y ys => cases h
  | cons x xs ih =>
    cases ys with
    | nil => cases h
    | cons y ys =>
      obtain ⟨hfirst, hrest⟩ := List.append_inj h rfl
      rw [hone hfirst, ih hrest]

end Hex

/-! ## Tokens -/

namespace Token

/-- Tokens that are written alike are the same. -/
theorem toHex_inj {t t' : Token} (h : t.toHex = t'.toHex) : t = t' := by
  have hdigits := congrArg String.toList h
  rw [toHex, toHex, Hex.encode, Hex.encode, String.toList_ofList, String.toList_ofList] at hdigits
  have hsecret : t.secret = t'.secret := Block.toOctets_inj.mp (Hex.flatMap_ofOctet_inj hdigits)
  cases t
  cases t'
  exact congrArg Token.mk hsecret

/-- Why octets spell no token, and what is said of them: there are more or fewer than thirty-two, or one
of them is no digit, and those before it are. -/
inductive Refused : Octets → Fault → Prop
  | length (octets : Octets) (h : octets.length ≠ 32) : Refused octets (.length octets.length)
  | badDigit (before after : Octets) (x : UInt8) (hlength : (before ++ x :: after).length = 32)
    (hbefore : ∀ y ∈ before, Hex.IsDigit y) (hx : ¬ Hex.IsDigit x) :
    Refused (before ++ x :: after) (.badDigit x before.length)

/-- Octets are thirty-two digits, or there is a reason why they spell no token. -/
theorem digits_or_refused (octets : Octets) :
    (octets.length = 32 ∧ ∀ x ∈ octets, Hex.IsDigit x) ∨ ∃ fault, Refused octets fault := by
  by_cases hlength : octets.length = 32
  · by_cases hdigits : ∀ x ∈ octets, Hex.IsDigit x
    · exact Or.inl ⟨hlength, hdigits⟩
    · obtain ⟨before, x, after, rfl, hbefore, hx⟩ := Hex.exists_badDigit hdigits
      exact Or.inr ⟨_, .badDigit before after x hlength hbefore hx⟩
  · exact Or.inr ⟨_, .length octets hlength⟩

section

variable {s : String} {text : List Char} (h : Trimmed s.toList text)

include h

/-- A text between blanks that spells no token is refused for the reason. -/
theorem ofHex_of_refused {fault : Fault} (hrefused : Refused (Utf8.encode text) fault) :
    ofHex s = .error fault := by
  unfold ofHex
  dsimp only
  rw [h.trimBlanks_eq]
  generalize Utf8.encode text = octets at hrefused
  cases hrefused with
  | length _ hlength => rw [if_pos hlength]
  | badDigit before after x hlength hbefore hx =>
    have hread : Hex.decode (before ++ x :: after) = .error (.badDigit x before.length) := by
      rw [Hex.decode, Hex.decodeFrom_of_badDigit hx after 0 [] before hbefore, Nat.zero_add]
    rw [if_neg (not_not_intro hlength), hread]

/-- Thirty-two digits between blanks are read as a token that is written as the digits in lower case. -/
theorem exists_ofHex_of_digits (hlength : (Utf8.encode text).length = 32)
    (hdigits : ∀ x ∈ Utf8.encode text, Hex.IsDigit x) :
    ∃ t, ofHex s = .ok t ∧ t.toHex = String.ofList (text.map Char.toLower) := by
  obtain ⟨octets, hread, hwritten⟩ :=
    Hex.exists_decodeFrom_of_digits 0 [] (Utf8.encode text) (by rw [hlength]) hdigits
  have hread' : Hex.decode (Utf8.encode text) = .ok octets := hread
  have hsixteen : octets.length = 16 := by
    have hsame := congrArg List.length hwritten
    rw [Hex.length_flatMap_ofOctet, List.length_map, hlength] at hsame
    omega
  obtain ⟨secret, hsecret, rfl⟩ := Block.exists_ofOctets? hsixteen
  refine ⟨⟨secret⟩, ?_, ?_⟩
  · unfold ofHex
    dsimp only
    rw [h.trimBlanks_eq, if_neg (not_not_intro hlength), hread']
    dsimp only
    rw [hsecret]
  · rw [toHex, toOctets, Hex.encode, hwritten, Hex.map_lowercase_encode hdigits]

end

/-- What a token is written with. -/
theorem toList_toHex (t : Token) : t.toHex.toList = t.toOctets.flatMap Hex.ofOctet := by
  rw [toHex, Hex.encode, String.toList_ofList]

/-- A token is written with digits in lower case, none of them blank and each of them one octet. -/
theorem written_toHex {t : Token} {c : Char} (h : c ∈ t.toHex.toList) :
    isBlank c = false ∧ c.toLower = c ∧ (String.utf8EncodeChar c).length = 1 ∧
      ∀ y ∈ String.utf8EncodeChar c, Hex.IsDigit y := by
  rw [toList_toHex] at h
  obtain ⟨x, -, hc⟩ := List.mem_flatMap.mp h
  obtain ⟨n, hn, rfl⟩ := Hex.exists_eq_digit hc
  exact Hex.written_digit n hn

/-- A token is written with thirty-two octets. -/
theorem length_encode_toHex (t : Token) : (Utf8.encode t.toHex.toList).length = 32 := by
  have hone (cs : List Char) (h : ∀ c ∈ cs, (String.utf8EncodeChar c).length = 1) :
      (Utf8.encode cs).length = cs.length := by
    induction cs with
    | nil => rfl
    | cons c cs ih =>
      rw [List.forall_mem_cons] at h
      rw [Utf8.encode_cons, List.length_append, h.1, ih h.2, List.length_cons, Nat.add_comm]
  rw [hone _ fun c hc => (written_toHex hc).2.2.1, toList_toHex, Hex.length_flatMap_ofOctet]
  rfl

section

variable {left right : List Char} (hleft : ∀ c ∈ left, isBlank c = true)
  (hright : ∀ c ∈ right, isBlank c = true)

include hleft hright

/-- Between blanks it is the digits of a token that are left without the blanks. -/
theorem trimmed_toHex (t : Token) :
    Trimmed (String.ofList left ++ t.toHex ++ String.ofList right).toList t.toHex.toList := by
  refine ⟨⟨left, right, ?_, hleft, hright⟩, ?_, ?_⟩
  · rw [String.toList_append, String.toList_append, String.toList_ofList, String.toList_ofList,
      List.append_assoc]
  · intro h
    rw [(written_toHex (List.head_mem h)).1]
    exact Bool.false_ne_true
  · intro h
    rw [(written_toHex (List.getLast_mem h)).1]
    exact Bool.false_ne_true

/-- The digits of a token between blanks are read as the token. -/
theorem ofHex_toHex (t : Token) :
    ofHex (String.ofList left ++ t.toHex ++ String.ofList right) = .ok t := by
  have hdigits : ∀ x ∈ Utf8.encode t.toHex.toList, Hex.IsDigit x := by
    intro x hx
    obtain ⟨c, hc, hx⟩ := List.mem_flatMap.mp hx
    exact (written_toHex hc).2.2.2 x hx
  have hlower : t.toHex.toList.map Char.toLower = t.toHex.toList :=
    (List.map_congr_left fun c hc => (written_toHex hc).2.1).trans (List.map_id _)
  obtain ⟨t', hread, hwritten⟩ :=
    exists_ofHex_of_digits (t.trimmed_toHex hleft hright) t.length_encode_toHex hdigits
  rw [hlower, String.ofList_toList] at hwritten
  rw [hread, toHex_inj hwritten]

end

/-- A text is read as a token exactly if, without the blanks at its ends, it is thirty-two octets which
are hexadecimal digits of either case. Then the token is written as this text in lower case. Every other
text is refused, with the number of octets if that is another one, and with the first octet that is no
digit and its place otherwise. What a token is written as is read as the token, with any blanks around. -/
theorem ofHex_exactly_digits_between_blanks (s : String) :
    ∃ text, Trimmed s.toList text ∧
      ((∃ t, ofHex s = .ok t) ↔
        (Utf8.encode text).length = 32 ∧ ∀ x ∈ Utf8.encode text, Hex.IsDigit x) ∧
      (∀ t, ofHex s = .ok t → t.toHex = String.ofList (text.map Char.toLower)) ∧
      (∀ fault, ofHex s = .error fault ↔ Refused (Utf8.encode text) fault) ∧
      ∀ (t : Token) (left right : List Char), (∀ c ∈ left, isBlank c = true) →
        (∀ c ∈ right, isBlank c = true) →
          ofHex (String.ofList left ++ t.toHex ++ String.ofList right) = .ok t := by
  have htrimmed := trimmed_trimBlanks s.toList
  refine ⟨trimBlanks s.toList, htrimmed, ?_⟩
  generalize trimBlanks s.toList = text at htrimmed
  have haccepted : (∃ t, ofHex s = .ok t) ↔
      (Utf8.encode text).length = 32 ∧ ∀ x ∈ Utf8.encode text, Hex.IsDigit x := by
    constructor
    · rintro ⟨t, hread⟩
      obtain hdigits | ⟨fault, hrefused⟩ := digits_or_refused (Utf8.encode text)
      · exact hdigits
      · rw [ofHex_of_refused htrimmed hrefused] at hread
        cases hread
    · rintro ⟨hlength, hdigits⟩
      obtain ⟨t, hread, -⟩ := exists_ofHex_of_digits htrimmed hlength hdigits
      exact ⟨t, hread⟩
  refine ⟨haccepted, ?_, ?_, fun t left right hleft hright => ofHex_toHex hleft hright t⟩
  · intro t hread
    obtain ⟨hlength, hdigits⟩ := haccepted.mp ⟨t, hread⟩
    obtain ⟨t', hread', hwritten⟩ := exists_ofHex_of_digits htrimmed hlength hdigits
    rw [hread] at hread'
    cases hread'
    exact hwritten
  · intro fault
    refine ⟨fun herror => ?_, ofHex_of_refused htrimmed⟩
    obtain hdigits | ⟨fault', hrefused⟩ := digits_or_refused (Utf8.encode text)
    · obtain ⟨t, hread⟩ := haccepted.mpr hdigits
      rw [hread] at herror
      cases herror
    · rw [ofHex_of_refused htrimmed hrefused] at herror
      cases herror
      exact hrefused

/-- A character of two octets is refused by the first of them, after the blanks. -/
example : ofHex " é000000000000000000000000000000" = .error (.badDigit 0xc3 0) := by cbv

end Token

end Appliance
