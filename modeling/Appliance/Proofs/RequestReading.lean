import Appliance.Proofs.DecodedScalars
import Appliance.Proofs.Members
import Appliance.Request

/-!
# Requests read back

The compact text of an object is read as a request exactly if its members make one: its own three
members are the values of their keys, and what is left is further members. A reader of a text knows
which type is wanted of a member before it has seen it; where a scalar is wanted it looks at no more
of an array or an object than the bracket, with which no scalar starts. Keys that come once keep it
from ever finding a field that is filled already.
-/

namespace Appliance

namespace Request

open Json (Distinct Fills fills_cons_iff Stop Reading Fault)
open Json.Reader

/-- The keys of a request's own members. -/
def baseKeys : List String := ["id", "method", "params"]

attribute [ext] Partial

/-! ## What members give -/

section

variable {α : Type} {reads : Json → Option α → Prop} {m : String × Json}
  {members : List (String × Json)}

/-- A field that was filled by no member more is filled by none after the first of them. -/
theorem lookup_eq_none_of_fills (h : Distinct (m :: members)) {key : String}
    {before after : Option α} (hopen : before.isSome → (m :: members).lookup key = none)
    (hfills : Fills reads ([m].lookup key) before after) (hsome : after.isSome) :
    members.lookup key = none := by
  rw [Json.lookup_cons, List.lookup_nil] at hfills
  by_cases hkey : key = m.1
  · rw [hkey]
    exact (Json.lookup_eq_none_iff m.1 members).mpr (List.nodup_cons.mp h).1
  · rw [if_neg hkey] at hfills
    rw [Json.lookup_cons, if_neg hkey] at hopen
    exact hopen (hfills ▸ hsome)

end

/-- What has been read after some members more: the fields are filled from the values of their keys,
and the members left over are kept, the latest first. -/
structure Gathers (members : List (String × Json)) (p p' : Partial) : Prop where
  id : Fills (fun v id => ∃ n : UInt32, v = .int n.toNat ∧ id = some n) (members.lookup "id")
    p.id p'.id
  method : Fills (fun v method => ∃ s, v = .string s ∧ method = some s) (members.lookup "method")
    p.method p'.method
  params : Fills (fun v params => params = some v) (members.lookup "params") p.params p'.params
  extra : p'.extra = (Json.without baseKeys members).reverse ++ p.extra

/-- Members are gathered one after another. -/
theorem gathers_cons_iff {m : String × Json} {members : List (String × Json)}
    (h : Distinct (m :: members)) (p p' : Partial) :
    Gathers (m :: members) p p' ↔ ∃ q, Gathers [m] p q ∧ Gathers members q p' := by
  have hextra (extra : List (String × Json)) :
      (Json.without baseKeys (m :: members)).reverse ++ extra =
        (Json.without baseKeys members).reverse ++
          ((Json.without baseKeys [m]).reverse ++ extra) := by
    have hsplit : Json.without baseKeys (m :: members) =
        Json.without baseKeys [m] ++ Json.without baseKeys members :=
      List.filter_append [m] members
    rw [hsplit, List.reverse_append, List.append_assoc]
  constructor
  · intro hg
    obtain ⟨id, hid, hid'⟩ := (fills_cons_iff h _ _ _).mp hg.id
    obtain ⟨method, hmethod, hmethod'⟩ := (fills_cons_iff h _ _ _).mp hg.method
    obtain ⟨params, hparams, hparams'⟩ := (fills_cons_iff h _ _ _).mp hg.params
    refine ⟨⟨id, method, params, (Json.without baseKeys [m]).reverse ++ p.extra⟩,
      ⟨hid, hmethod, hparams, rfl⟩, ⟨hid', hmethod', hparams', ?_⟩⟩
    exact hg.extra.trans (hextra p.extra)
  · rintro ⟨q, hq, hp'⟩
    refine ⟨(fills_cons_iff h _ _ _).mpr ⟨_, hq.id, hp'.id⟩,
      (fills_cons_iff h _ _ _).mpr ⟨_, hq.method, hp'.method⟩,
      (fills_cons_iff h _ _ _).mpr ⟨_, hq.params, hp'.params⟩, ?_⟩
    rw [hextra, ← hq.extra]
    exact hp'.extra

/-- No field that is filled is named by members still to come. -/
structure Partial.Open (p : Partial) (members : List (String × Json)) : Prop where
  id : p.id.isSome → members.lookup "id" = none
  method : p.method.isSome → members.lookup "method" = none
  params : p.params.isSome → members.lookup "params" = none

/-- Where no key comes twice, what is still to come names no field that has been filled. -/
theorem Partial.Open.of_gathers {m : String × Json} {members : List (String × Json)}
    (h : Distinct (m :: members)) {p q : Partial} (hp : p.Open (m :: members))
    (hq : Gathers [m] p q) : q.Open members :=
  ⟨lookup_eq_none_of_fills h hp.id hq.id, lookup_eq_none_of_fills h hp.method hq.method,
    lookup_eq_none_of_fills h hp.params hq.params⟩

section

variable {v : Json} {p q : Partial}

/-- An id is gathered from a number of 32 bits. -/
theorem gathers_id_iff :
    Gathers [("id", v)] p q ↔ ∃ n : UInt32, v = .int n.toNat ∧ { p with id := some n } = q := by
  constructor
  · rintro ⟨⟨n, hn, hid⟩, hmethod, hparams, hextra⟩
    exact ⟨n, hn, Partial.ext hid.symm hmethod.symm hparams.symm hextra.symm⟩
  · rintro ⟨n, hn, rfl⟩
    exact ⟨⟨n, hn, rfl⟩, rfl, rfl, rfl⟩

/-- A method is gathered from a string. -/
theorem gathers_method_iff :
    Gathers [("method", v)] p q ↔ ∃ s, v = .string s ∧ { p with method := some s } = q := by
  constructor
  · rintro ⟨hid, ⟨s, hs, hmethod⟩, hparams, hextra⟩
    exact ⟨s, hs, Partial.ext hid.symm hmethod.symm hparams.symm hextra.symm⟩
  · rintro ⟨s, hs, rfl⟩
    exact ⟨rfl, ⟨s, hs, rfl⟩, rfl, rfl⟩

/-- Parameters are gathered from every value. -/
theorem gathers_params_iff :
    Gathers [("params", v)] p q ↔ { p with params := some v } = q := by
  constructor
  · rintro ⟨hid, hmethod, hparams, hextra⟩
    exact Partial.ext hid.symm hmethod.symm hparams.symm hextra.symm
  · rintro rfl
    exact ⟨rfl, rfl, rfl, rfl⟩

/-- A further member is gathered from every value. -/
theorem gathers_other_iff {key : String} (hkey : key ∉ baseKeys) :
    Gathers [(key, v)] p q ↔ { p with extra := (key, v) :: p.extra } = q := by
  have hlookup (base : String) (hbase : base ∈ baseKeys) : [(key, v)].lookup base = none := by
    have hne : base ≠ key := fun h => hkey (h ▸ hbase)
    exact Json.lookup_singleton_of_ne hne
  have hkept : Json.without baseKeys [(key, v)] = [(key, v)] := by
    simp [Json.without, hkey]
  constructor
  · rintro ⟨hid, hmethod, hparams, hextra⟩
    rw [hlookup _ (by decide)] at hid hmethod hparams
    rw [hkept] at hextra
    exact Partial.ext hid.symm hmethod.symm hparams.symm hextra.symm
  · rintro rfl
    refine ⟨?_, ?_, ?_, ?_⟩
    · rw [hlookup _ (by decide)]
      rfl
    · rw [hlookup _ (by decide)]
      rfl
    · rw [hlookup _ (by decide)]
      rfl
    · rw [hkept]
      rfl

end

/-! ## One member -/

/-- What is read where nothing may be nested is read whatever is done with brackets. -/
theorem start_eq_of_ok {stop : Octets → Stop} {input : Octets} {read : Json × Octets}
    (h : start (fun _ rest => .error (stop rest)) input = .ok read)
    (nested : UInt8 → Octets → Reading Json) : start nested input = .ok read := by
  unfold start at h ⊢
  cases hinput : skipBlank input with
  | nil =>
    rw [hinput] at h
    cases h
  | cons x rest =>
    rw [hinput] at h
    dsimp only at h ⊢
    by_cases hx : x = 0x5b ∨ x = 0x7b
    · exfalso
      rcases hx with rfl | rfl <;> cases h
    · rw [if_neg hx] at h ⊢
      exact h

/-- Of an array or an object only the opening bracket is looked at. -/
def untouched (bracket : UInt8) (rest : Octets) : Reading Json :=
  .ok (if bracket = 0x5b then .array [] else .object [], bracket :: rest)

section

variable {α : Type} {decode : Json → Except Fault α}

/-- A scalar is made of the value that starts, and nothing of what is left is read. -/
theorem scalar_eq_ok_iff_of_start {input after : Octets} {v : Json}
    (h : start untouched input = .ok (v, after)) (read : α × Octets) :
    scalar decode input = .ok read ↔ decode v = .ok read.1 ∧ read.2 = after := by
  unfold untouched at h
  unfold scalar
  dsimp only
  rw [h]
  dsimp only
  cases decode v with
  | error fault => simp
  | ok a => simp [Prod.ext_iff, eq_comm]

variable (hflat : ∀ v a, decode v = .ok a → v.depth = 0)

include hflat

/-- Nothing that nests is read as a scalar. -/
theorem scalar_bracket_ne_ok {x : UInt8} (hx : x = 0x5b ∨ x = 0x7b) (rest : Octets)
    (read : α × Octets) : scalar decode (x :: rest) ≠ .ok read := by
  intro h
  obtain ⟨v, hdepth, hstart⟩ : ∃ v : Json, v.depth ≠ 0 ∧
      start untouched (x :: rest) = .ok (v, x :: rest) := by
    rcases hx with rfl | rfl
    · exact ⟨.array [], Nat.succ_ne_zero _, rfl⟩
    · exact ⟨.object [], Nat.succ_ne_zero _, rfl⟩
  exact hdepth (hflat v read.1 ((scalar_eq_ok_iff_of_start hstart read).mp h).1)

/-- A scalar is read from the text of what is read as it without a text, and from nothing else. -/
theorem scalar_chars_eq_ok_iff {v : Json} (hv : v.Integral) {rest : Octets} (hrest : Follows rest)
    (a : α) (after : Octets) :
    scalar decode (Utf8.encode v.chars ++ rest) = .ok (a, after) ↔
      decode v = .ok a ∧ after = rest := by
  by_cases hdepth : v.depth = 0
  · have hsorted : v.sorted = v := by
      cases v with
      | array xs => cases hdepth
      | object ms => cases hdepth
      | null | bool _ | number _ | string _ => rfl
    have hread := Json.value_chars _ v hv 0 (Nat.le_of_eq hdepth) (Nat.le_refl _) rest hrest
    rw [hsorted] at hread
    exact scalar_eq_ok_iff_of_start (start_eq_of_ok hread untouched) (a, after)
  · obtain ⟨x, tail, hopen, hx⟩ :
        ∃ x tail, Utf8.encode v.chars = x :: tail ∧ (x = 0x5b ∨ x = 0x7b) := by
      cases v with
      | array xs => exact ⟨0x5b, _, rfl, Or.inl rfl⟩
      | object ms => exact ⟨0x7b, _, rfl, Or.inr rfl⟩
      | null | bool _ | number _ | string _ => exact absurd rfl hdepth
    constructor
    · intro h
      rw [hopen] at h
      exact absurd h (scalar_bracket_ne_ok hflat hx _ _)
    · rintro ⟨h, -⟩
      exact absurd (hflat v a h) hdepth

end

/-- One member from its colon on, and what is read with it. -/
def field (n : Nat) (p : Partial) (key : String) (rest : Octets) : Reading Partial :=
  if key = "id" then
    (scalar Json.decode rest).map fun (id, rest) => ({ p with id := some id }, rest)
  else if key = "method" then
    (scalar Json.decode rest).map fun (m, rest) => ({ p with method := some m }, rest)
  else
    (value n (Json.maxDepth - 1) rest).map fun (v, rest) =>
      (if key = "params" then { p with params := some v }
        else { p with extra := (key, v) :: p.extra }, rest)

/-- Sorting makes an integer of nothing else. -/
theorem sorted_eq_int_iff (v : Json) (k : Int) : v.sorted = .int k ↔ v = .int k := by
  cases v <;> simp [Json.sorted]

/-- Sorting makes a string of nothing else. -/
theorem sorted_eq_string_iff (v : Json) (s : String) : v.sorted = .string s ↔ v = .string s := by
  cases v <;> simp [Json.sorted]

/-- The text of a member is read as the member is gathered. -/
theorem field_chars_eq_ok_iff {n : Nat} {v : Json} (hv : v.Integral)
    (hdepth : v.depth ≤ Json.maxDepth - 1) (hn : v.chars.length ≤ n) {rest : Octets}
    (hrest : Follows rest) (key : String) (p q : Partial) (after : Octets) :
    field n p key (Utf8.encode v.chars ++ rest) = .ok (q, after) ↔
      Gathers [(key, v.sorted)] p q ∧ after = rest := by
  have hvalue := Json.value_chars n v hv (Json.maxDepth - 1) hdepth hn rest hrest
  unfold field
  by_cases hid : key = "id"
  · have hflat (w : Json) (n : UInt32) (h : Json.decode w = .ok n) : w.depth = 0 := by
      rw [(Json.decode_uint32_eq_ok_iff w n).mp h]
      rfl
    subst hid
    rw [if_pos rfl, Json.map_eq_ok_iff, gathers_id_iff]
    simp only [Prod.exists, Prod.mk.injEq, scalar_chars_eq_ok_iff hflat hv hrest,
      Json.decode_uint32_eq_ok_iff, sorted_eq_int_iff]
    grind
  by_cases hmethod : key = "method"
  · have hflat (w : Json) (s : String) (h : Json.decode w = .ok s) : w.depth = 0 := by
      rw [(Json.decode_string_eq_ok_iff w s).mp h]
      rfl
    subst hmethod
    rw [if_neg hid, if_pos rfl, Json.map_eq_ok_iff, gathers_method_iff]
    simp only [Prod.exists, Prod.mk.injEq, scalar_chars_eq_ok_iff hflat hv hrest,
      Json.decode_string_eq_ok_iff, sorted_eq_string_iff]
    grind
  rw [if_neg hid, if_neg hmethod, hvalue, Except.map, Except.ok.injEq, Prod.mk.injEq]
  by_cases hparams : key = "params"
  · subst hparams
    rw [if_pos rfl, gathers_params_iff, eq_comm (a := rest)]
  · have hkey : key ∉ baseKeys := by
      simp [baseKeys, hid, hmethod, hparams]
    rw [if_neg hparams, gathers_other_iff hkey, eq_comm (a := rest)]

/-! ## Members one after another -/

/-- A key whose field is not filled is no fault. -/
theorem Partial.Open.not_twice {p : Partial} {key : String} {v : Json}
    {members : List (String × Json)} (hopen : p.Open ((key, v) :: members)) :
    ¬ ((key = "id" ∧ p.id.isSome) ∨ (key = "method" ∧ p.method.isSome) ∨
      (key = "params" ∧ p.params.isSome)) := by
  have hgiven (base : String) (hkey : key = base) : ((key, v) :: members).lookup base ≠ none := by
    rw [Json.lookup_cons, if_pos hkey.symm]
    exact Option.some_ne_none v
  rintro (⟨hkey, hsome⟩ | ⟨hkey, hsome⟩ | ⟨hkey, hsome⟩)
  · exact hgiven "id" hkey (hopen.id hsome)
  · exact hgiven "method" hkey (hopen.method hsome)
  · exact hgiven "params" hkey (hopen.params hsome)

section

variable {n turns : Nat} {p : Partial} {input inner rest : Octets} {key : String} {v : Json}
  {members : List (String × Json)} (hopen : p.Open ((key, v) :: members))
  (hkey : string input = .ok (key, 0x3a :: inner))

include hopen hkey

/-- A member whose value cannot be read ends the reading. -/
theorem readMembers_of_error {stop : Stop} (hfield : field n p key inner = .error stop) :
    readMembers n (turns + 1) p input = .error (.text stop) := by
  have hcolon : colon (0x3a :: inner) = .ok inner := rfl
  unfold field at hfield
  rw [readMembers, hkey]
  dsimp only
  rw [if_neg hopen.not_twice, hcolon]
  dsimp only
  rw [hfield]

/-- The last member of a request is all that is left to read. -/
theorem readMembers_last_eq_ok_iff
    (hafter : ∀ q after, field n p key inner = .ok (q, after) → after = 0x7d :: rest)
    (read : Partial × Octets) :
    readMembers n (turns + 1) p input = .ok read ↔ field n p key inner = .ok read := by
  cases hfield : field n p key inner with
  | error stop => simp [readMembers_of_error hopen hkey hfield]
  | ok first =>
    have hcolon : colon (0x3a :: inner) = .ok inner := rfl
    have hrest := hafter first.1 first.2 hfield
    have hread : readMembers n (turns + 1) p input = .ok first := by
      obtain ⟨q, after⟩ := first
      subst hrest
      unfold field at hfield
      rw [readMembers, hkey]
      dsimp only
      rw [if_neg hopen.not_twice, hcolon]
      dsimp only
      rw [hfield]
      rfl
    simp [hread]

/-- After a member in front of another the others are read. -/
theorem readMembers_comma_eq_ok_iff
    (hafter : ∀ q after, field n p key inner = .ok (q, after) → after = 0x2c :: 0x22 :: rest)
    (read : Partial × Octets) :
    readMembers n (turns + 1) p input = .ok read ↔
      ∃ q, field n p key inner = .ok (q, 0x2c :: 0x22 :: rest) ∧
        readMembers n turns q rest = .ok read := by
  cases hfield : field n p key inner with
  | error stop => simp [readMembers_of_error hopen hkey hfield]
  | ok first =>
    have hcolon : colon (0x3a :: inner) = .ok inner := rfl
    have hrest := hafter first.1 first.2 hfield
    obtain ⟨q, after⟩ := first
    subst hrest
    have hread : readMembers n (turns + 1) p input = readMembers n turns q rest := by
      unfold field at hfield
      rw [readMembers, hkey]
      dsimp only
      rw [if_neg hopen.not_twice, hcolon]
      dsimp only
      rw [hfield]
      rfl
    simp [hread]

end

open Json (IntegralMembers depthMembers membersChars sortedMembers)

/-- The text of some members is read as they are gathered, where no key comes twice and no field
that they fill is filled already. -/
theorem readMembers_membersChars (n : Nat) : (ms : List (String × Json)) → ms ≠ [] →
    IntegralMembers ms → depthMembers ms ≤ Json.maxDepth - 1 → (membersChars ms).length ≤ n →
    Distinct (sortedMembers ms) → (rest : Octets) →
    ∃ tail, Utf8.encode (membersChars ms) ++ 0x7d :: rest = 0x22 :: tail ∧
      ∀ turns p, ms.length ≤ turns → p.Open (sortedMembers ms) → ∀ q after,
        readMembers n turns p tail = .ok (q, after) ↔
          Gathers (sortedMembers ms) p q ∧ after = 0x7d :: rest
  | [], hne, _, _, _, _, _ => absurd rfl hne
  | [(k, x)], _, hv, hdepth, hn, _, rest => by
    simp only [membersChars, List.length_append, List.length_cons] at hn
    obtain ⟨tail, htail, hkey⟩ := string_stringChars k
      (0x3a :: (Utf8.encode x.chars ++ 0x7d :: rest))
    refine ⟨tail, ?_, ?_⟩
    · rw [← htail, membersChars, Utf8.encode_append, List.append_assoc]
      rfl
    · intro turns p hturns hopen q after
      obtain ⟨turns, rfl⟩ := Nat.exists_eq_add_of_le' hturns
      have hx := field_chars_eq_ok_iff hv.1 (Nat.le_trans (Nat.le_max_left _ _) hdepth)
        (by omega : x.chars.length ≤ n) (.brace rest) k p
      exact (readMembers_last_eq_ok_iff hopen hkey (fun q after h => ((hx q after).mp h).2) _).trans
        (hx q after)
  | (k, x) :: (l, y) :: ms, _, hv, hdepth, hn, hdistinct, rest => by
    simp only [membersChars, List.length_append, List.length_cons] at hn
    obtain ⟨hdepthx, hdepthms⟩ := Nat.max_le.mp hdepth
    obtain ⟨next, hnext, hms⟩ := readMembers_membersChars n ((l, y) :: ms) (List.cons_ne_nil _ ms)
      hv.2 hdepthms (by omega) (List.nodup_cons.mp hdistinct).2 rest
    obtain ⟨tail, htail, hkey⟩ := string_stringChars k
      (0x3a :: (Utf8.encode x.chars ++ 0x2c :: 0x22 :: next))
    refine ⟨tail, ?_, ?_⟩
    · rw [← htail, ← hnext, membersChars, Utf8.encode_append, List.append_assoc, Utf8.encode_cons,
        Utf8.encode_append, Utf8.encode_cons]
      simp only [List.append_assoc]
      rfl
    · intro turns p hturns hopen q after
      obtain ⟨turns, rfl⟩ := Nat.exists_eq_add_of_le' (Nat.le_trans (Nat.le_add_left 1 _) hturns)
      have hx := field_chars_eq_ok_iff hv.1 hdepthx (by omega : x.chars.length ≤ n)
        (.comma (0x22 :: next)) k p
      have hothers (middle : Partial) (hmiddle : Gathers [(k, x.sorted)] p middle) :=
        hms turns middle (Nat.le_of_succ_le_succ hturns) (hopen.of_gathers hdistinct hmiddle)
          q after
      rw [readMembers_comma_eq_ok_iff hopen hkey (fun q after h => ((hx q after).mp h).2)]
      have hsplit := gathers_cons_iff hdistinct p q
      constructor
      · rintro ⟨middle, hfield, hread⟩
        obtain ⟨hmiddle, -⟩ := (hx middle _).mp hfield
        obtain ⟨hgathers, hafter⟩ := (hothers middle hmiddle).mp hread
        exact ⟨hsplit.mpr ⟨middle, hmiddle, hgathers⟩, hafter⟩
      · rintro ⟨hgathers, hafter⟩
        obtain ⟨middle, hmiddle, hgathers⟩ := hsplit.mp hgathers
        exact ⟨middle, (hx middle _).mpr ⟨hmiddle, rfl⟩,
          (hothers middle hmiddle).mpr ⟨hgathers, hafter⟩⟩

/-! ## Whole requests -/

/-- A request is made of what has been read of it. -/
theorem Partial.finish_eq_ok_iff (p : Partial) (r : Request) :
    p.finish = .ok r ↔ p.id = some r.id ∧ p.method = some r.method ∧ p.params = some r.params ∧
      Json.sortMembers p.extra.reverse = r.extra := by
  obtain ⟨id, method, params, extra⟩ := p
  obtain ⟨id', method', params', extra'⟩ := r
  cases id <;> cases method <;> cases params <;> simp [Partial.finish]

/-- A field that held nothing holds what is read from the value that it was given. -/
theorem fills_none_some_iff {α : Type} (reads : Json → Option α → Prop) (given : Option Json)
    (a : α) : Fills reads given none (some a) ↔ ∃ v, given = some v ∧ reads v (some a) := by
  cases given <;> simp [Fills]

/-- The request gathered from members. -/
theorem exists_gathers_finish_iff (members : List (String × Json)) (r : Request) :
    (∃ p, Gathers members Partial.empty p ∧ p.finish = .ok r) ↔
      members.lookup "id" = some (.int r.id.toNat) ∧
        members.lookup "method" = some (.string r.method) ∧
          members.lookup "params" = some r.params ∧
            r.extra = Json.sortMembers (Json.without baseKeys members) := by
  simp only [Partial.finish_eq_ok_iff]
  constructor
  · rintro ⟨p, hp, hid, hmethod, hparams, hextra⟩
    have hreadId := hp.id
    have hreadMethod := hp.method
    have hreadParams := hp.params
    rw [hid, Partial.empty, fills_none_some_iff] at hreadId
    rw [hmethod, Partial.empty, fills_none_some_iff] at hreadMethod
    rw [hparams, Partial.empty, fills_none_some_iff] at hreadParams
    obtain ⟨v, hv, n, rfl, hn⟩ := hreadId
    obtain ⟨w, hw, s, rfl, hs⟩ := hreadMethod
    obtain ⟨x, hx, hvalue⟩ := hreadParams
    cases hn
    cases hs
    cases hvalue
    rw [hp.extra, Partial.empty, List.append_nil, List.reverse_reverse] at hextra
    exact ⟨hv, hw, hx, hextra.symm⟩
  · rintro ⟨hid, hmethod, hparams, hextra⟩
    refine ⟨⟨some r.id, some r.method, some r.params, (Json.without baseKeys members).reverse⟩,
      ⟨?_, ?_, ?_, (List.append_nil _).symm⟩, rfl, rfl, rfl, ?_⟩
    · exact (fills_none_some_iff _ _ _).mpr ⟨_, hid, _, rfl, rfl⟩
    · exact (fills_none_some_iff _ _ _).mpr ⟨_, hmethod, _, rfl, rfl⟩
    · exact (fills_none_some_iff _ _ _).mpr ⟨_, hparams, rfl⟩
    · rw [List.reverse_reverse, hextra]

/-- A text is a request if one is read from it and nothing follows. -/
theorem parse_eq_ok_iff (text : Octets) (r : Request) :
    parse text = .ok r ↔
      ∃ rest, read text.length text = .ok (r, rest) ∧ Json.Reader.finish rest = .ok () := by
  unfold parse
  cases hread : read text.length text with
  | error stop => simp
  | ok first =>
    obtain ⟨r', rest⟩ := first
    cases hend : Json.Reader.finish rest with
    | error stop => simp [and_assoc, hend]
    | ok u => simp [and_assoc, hend]

/-- A request that opens with a member is finished after its members. -/
theorem read_brace_eq_ok_iff (n : Nat) (tail : Octets) (r : Request) (after : Octets) :
    read n (0x7b :: 0x22 :: tail) = .ok (r, after) ↔
      ∃ p rest, readMembers n n Partial.empty tail = .ok (p, rest) ∧ p.finish = .ok r ∧
        skipBrace rest = after := by
  have hbrace : skipBlank (0x7b :: 0x22 :: tail) = 0x7b :: 0x22 :: tail := rfl
  have hquote : skipBlank (0x22 :: tail) = 0x22 :: tail := rfl
  have hother : (0x22 : UInt8) ≠ 0x7d := by decide
  unfold read
  simp only [hbrace, hquote, if_neg hother, if_true]
  cases hmembers : readMembers n n Partial.empty tail with
  | error e => cases e <;> simp
  | ok first =>
    obtain ⟨q, rest⟩ := first
    cases hq : q.finish <;> simp [and_assoc, hq]

/-- A text that opens with a member is a request if its members are, up to its closing brace, and
nothing follows this. -/
theorem parse_brace_eq_ok_iff (text tail : Octets) (members : List (String × Json))
    (htext : text = 0x7b :: 0x22 :: tail)
    (htail : ∀ q after, readMembers text.length text.length Partial.empty tail = .ok (q, after) ↔
      Gathers members Partial.empty q ∧ after = [0x7d]) (r : Request) :
    parse text = .ok r ↔ ∃ p, Gathers members Partial.empty p ∧ p.finish = .ok r := by
  have hend : Json.Reader.finish (skipBrace [0x7d]) = .ok () := rfl
  have hread (after : Octets) := read_brace_eq_ok_iff text.length tail r after
  rw [← htext] at hread
  rw [parse_eq_ok_iff]
  constructor
  · rintro ⟨after, hr, -⟩
    obtain ⟨p, rest, hmembers, hfinish, -⟩ := (hread after).mp hr
    exact ⟨p, ((htail p rest).mp hmembers).1, hfinish⟩
  · rintro ⟨p, hgathers, hfinish⟩
    exact ⟨_, (hread _).mpr ⟨p, [0x7d], (htail p _).mpr ⟨hgathers, rfl⟩, hfinish, rfl⟩, hend⟩

/-- The text of an object is read as the request that its members make. -/
theorem parse_object_eq_ok_iff (ms : List (String × Json)) (hv : IntegralMembers ms)
    (hdepth : (Json.object ms).depth ≤ Json.maxDepth) (hdistinct : Distinct ms) (r : Request) :
    parse (Json.object ms).octets = .ok r ↔
      ms.lookup "id" = some (.int r.id.toNat) ∧ ms.lookup "method" = some (.string r.method) ∧
        (ms.lookup "params").map Json.sorted = some r.params ∧
          r.extra = Json.sortMembers (sortedMembers (Json.without baseKeys ms)) := by
  by_cases hne : ms = []
  · subst hne
    have hmissing : parse (Json.object []).octets =
        .error (Stop.toError [0x7b, 0x7d] (failAt (.missingField "id") [])) := rfl
    simp [hmissing]
  · have hoctets : (Json.object ms).octets = 0x7b :: (Utf8.encode (membersChars ms) ++ [0x7d]) := by
      have hopen := Utf8.encode_enclosed '\x7b' '\x7d' (membersChars ms) []
      rw [List.append_nil] at hopen
      rw [Json.octets_eq]
      exact hopen
    have hlength : (membersChars ms).length ≤ (Json.object ms).octets.length := by
      have := Utf8.length_le_length_encode (membersChars ms)
      rw [hoctets, List.length_cons, List.length_append]
      omega
    have hcount := Json.length_le_length_membersChars ms
    have hdistinct' : Distinct (sortedMembers ms) := by
      unfold Distinct
      rw [Json.map_fst_sortedMembers]
      exact hdistinct
    obtain ⟨tail, htail, hread⟩ := readMembers_membersChars (Json.object ms).octets.length ms hne hv
      (Nat.le_sub_one_of_lt hdepth) hlength hdistinct' []
    have hopen : Partial.empty.Open (sortedMembers ms) :=
      ⟨nofun, nofun, nofun⟩
    rw [htail] at hoctets
    rw [parse_brace_eq_ok_iff _ tail (sortedMembers ms) hoctets
      (hread _ Partial.empty (Nat.le_trans hcount hlength) hopen), exists_gathers_finish_iff]
    simp only [Json.lookup_sortedMembers, Json.without_sortedMembers, Option.map_eq_some_iff,
      sorted_eq_int_iff, sorted_eq_string_iff, exists_eq_right]

end Request

end Appliance
