import Appliance.Conversion
import Appliance.Proofs.DecodedScalars
import Appliance.Proofs.Members
import Mathlib.Data.List.Nodup

/-!
# Records read from members

A record takes up the members of an object one after another, and each of its fields is set by one key
alone. Where no key comes twice, what a field holds in the end is therefore read from the value of its
key, whatever stands in between, and whether all members are taken up is a matter of each of them alone.

What is written of a type is read back; since what is written may have its objects sorted before it is
read, this is asked of both forms.
-/

namespace Appliance

/-- A value is what is asked for exactly if it is read as that. -/
theorem convert_eq_ok_iff {α : Type} [Json.Decodable α] {v : Json} {a : α} :
    convert v = .ok a ↔ Json.decode v = .ok a := by
  unfold convert
  cases (Json.decode v : Except Json.Fault α) with
  | ok b => simp
  | error fault => simp

namespace Json

/-! ## Members with keys that come once -/

/-- Where no key comes twice, the members are what their keys give. -/
theorem Distinct.mem_iff_lookup {members : List (String × Json)} (h : Distinct members)
    (m : String × Json) : m ∈ members ↔ members.lookup m.1 = some m.2 := by
  induction members with
  | nil => simp
  | cons n members ih =>
    obtain ⟨hn, hmembers⟩ := List.nodup_cons.mp h
    rw [List.mem_cons, lookup_cons, ih hmembers]
    by_cases hkey : m.1 = n.1
    · have hnone := (lookup_eq_none_iff n.1 members).mpr hn
      rw [if_pos hkey, hkey, hnone, Option.some.injEq, Prod.ext_iff, eq_comm (a := n.2)]
      simp [hkey]
    · rw [if_neg hkey]
      refine ⟨fun hm => hm.resolve_left ?_, Or.inr⟩
      exact fun heq => hkey (congrArg Prod.fst heq)

/-- Members in ascending order that give every key the same value are the same. -/
theorem Ascending.eq_of_lookup_eq {ms ns : List (String × Json)} (hms : Ascending ms)
    (hns : Ascending ns) (h : ∀ key, ms.lookup key = ns.lookup key) : ms = ns := by
  have hperm : ms.Perm ns := by
    refine (List.perm_ext_iff_of_nodup (List.Nodup.of_map _ hms.distinct)
      (List.Nodup.of_map _ hns.distinct)).mpr fun m => ?_
    rw [hms.distinct.mem_iff_lookup, hns.distinct.mem_iff_lookup, h]
  refine hperm.eq_of_pairwise ?_ hms hns
  intro m n _ _ hlt hgt
  exact absurd (String.lt_trans hlt hgt) (String.lt_irrefl m.1)

/-- Sorted, with their values sorted, members give every key its value sorted. -/
theorem Distinct.lookup_sorted {members : List (String × Json)} (h : Distinct members)
    (key : String) :
    (sortMembers (sortedMembers members)).lookup key = (members.lookup key).map sorted := by
  have hkeys : Distinct (sortedMembers members) := by
    unfold Distinct
    rw [map_fst_sortedMembers]
    exact h
  rw [lookup_sortMembers, hkeys.lookup_reverse, lookup_sortedMembers]

/-- Members none of whose keys is left out stay as they are. -/
theorem without_eq_self {keys : List String} {members : List (String × Json)}
    (h : ∀ key ∈ keys, members.lookup key = none) : without keys members = members := by
  refine List.filter_eq_self.mpr fun m hm => ?_
  have hkey : m.1 ∉ keys := fun hkey =>
    (lookup_eq_none_iff m.1 members).mp (h m.1 hkey) (List.mem_map_of_mem hm)
  simpa using hkey

/-- Where members are left out, the values of the others are sorted if all were. -/
theorem sortedMembers_without (keys : List String) {members : List (String × Json)}
    (h : SortedMembers members) : SortedMembers (without keys members) := by
  induction members with
  | nil => trivial
  | cons m members ih =>
    obtain ⟨hm, hmembers⟩ := h
    by_cases hkey : m.1 ∈ keys
    · simpa [without, hkey] using ih hmembers
    · have hstep : without keys (m :: members) = m :: without keys members := by
        simp [without, hkey]
      rw [hstep]
      exact ⟨hm, ih hmembers⟩

/-! ## Fields of a record -/

/-- A value is read as one of a type. -/
def ReadAs {α : Type} [Decodable α] (v : Json) (a : α) : Prop := decode v = .ok a

/-- What a field holds is decided by what it held before and by the value that fills it. -/
theorem Fills.unique {α : Type} [Decodable α] {v? : Option Json} {before after after' : α}
    (h : Fills ReadAs v? before after) (h' : Fills ReadAs v? before after') : after = after' := by
  cases v? with
  | none => exact Eq.trans h (Eq.symm h')
  | some v => exact Except.ok.inj (Eq.trans (Eq.symm h) h')

section

variable {ρ α : Type} [Decodable α] {step : String → Json → ρ → Except Fault ρ}

/-- A value that fills a field is read, whatever is made of it. -/
theorem Fills.exists_map {v? : Option Json} {before after : α} (h : Fills ReadAs v? before after)
    {v : Json} (hv : v? = some v) (f : α → ρ) : ∃ r, (decode v).map f = .ok r := by
  subst hv
  have hread : decode v = .ok after := h
  exact ⟨f after, by rw [hread]; rfl⟩

/-- A record after members that are taken up one after another. -/
def takeMembers (step : String → Json → ρ → Except Fault ρ) (members : List (String × Json))
    (r : ρ) : Except Fault ρ := members.foldlM (fun r m => step m.1 m.2 r) r

/-- Of what is taken up into a record, one key sets a field and the others leave it. -/
def ReadsField (step : String → Json → ρ → Except Fault ρ) (key : String) (field : ρ → α) : Prop :=
  ∀ k v r r', step k v r = .ok r' →
    Fills ReadAs (if key = k then some v else none) (field r) (field r')

/-- A field holds what is read from the value of its key among all members. -/
theorem ReadsField.fills {key : String} {field : ρ → α} (h : ReadsField step key field)
    {members : List (String × Json)} (hkeys : Distinct members) {r r' : ρ}
    (hread : takeMembers step members r = .ok r') :
    Fills ReadAs (members.lookup key) (field r) (field r') := by
  induction members generalizing r with
  | nil =>
    cases hread
    rfl
  | cons m members ih =>
    rw [takeMembers, List.foldlM_cons, bind_eq_ok_iff] at hread
    obtain ⟨q, hq, hr'⟩ := hread
    refine (fills_cons_iff hkeys key _ _).mpr ⟨field q, ?_, ih (List.nodup_cons.mp hkeys).2 hr'⟩
    rw [lookup_cons, List.lookup_nil]
    exact h m.1 m.2 r q hq

/-- Members that are taken up one by one are taken up together. -/
theorem exists_takeMembers_eq_ok {members : List (String × Json)}
    (h : ∀ m ∈ members, ∀ r, ∃ r', step m.1 m.2 r = .ok r') (r : ρ) :
    ∃ r', takeMembers step members r = .ok r' := by
  induction members generalizing r with
  | nil => exact ⟨r, rfl⟩
  | cons m members ih =>
    rw [List.forall_mem_cons] at h
    obtain ⟨q, hq⟩ := h.1 r
    obtain ⟨r', hr'⟩ := ih h.2 q
    refine ⟨r', ?_⟩
    rw [takeMembers, List.foldlM_cons, bind_eq_ok_iff]
    exact ⟨q, hq, hr'⟩

end

/-! ## Optional values -/

section

variable {α : Type} [Decodable α]

/-- A value that is not null is read as an optional one if it is read at all. -/
theorem decode_option_of_ne_null {v : Json} (h : v ≠ .null) :
    (decode v : Except Fault (Option α)) = (decode v).map some := by
  cases v with
  | null => exact absurd rfl h
  | bool _ | number _ | string _ | array _ | object _ => rfl

/-- Null and nothing else is read as no value. -/
theorem decode_eq_ok_none_iff (v : Json) : decode v = .ok (none : Option α) ↔ v = .null := by
  by_cases h : v = .null
  · subst h
    exact ⟨fun _ => rfl, fun _ => rfl⟩
  · rw [decode_option_of_ne_null h, map_eq_ok_iff]
    simp [h]

/-- A field that held nothing holds nothing exactly if its key is missing or null. -/
theorem Fills.eq_none_iff {v? : Option Json} {after : Option α} (h : Fills ReadAs v? none after) :
    after = none ↔ v? = none ∨ v? = some .null := by
  cases v? with
  | none => exact ⟨fun _ => Or.inl rfl, fun _ => h⟩
  | some v =>
    have hread : decode v = .ok after := h
    constructor
    · rintro rfl
      rw [(decode_eq_ok_none_iff v).mp hread]
      exact Or.inr rfl
    · rintro (hnone | hnull)
      · cases hnone
      · rw [Option.some.inj hnull] at hread
        exact Except.ok.inj (hread.symm.trans ((decode_eq_ok_none_iff .null).mpr rfl))

end

/-! ## Values read back -/

/-- What is written of a type is read back, as it is written and with its objects sorted, and is never
null. -/
structure ReadBack (α : Type) [Decodable α] [Encodable α] : Prop where
  ne_null : ∀ a : α, encode a ≠ .null
  written : ∀ a : α, decode (encode a) = .ok a
  sorted : ∀ a : α, decode (encode a).sorted = .ok a

/-- Strings are read back. -/
theorem readBack_string : ReadBack String where
  ne_null s := by simp [encode]
  written s := rfl
  sorted s := rfl

/-- Signed integers of 64 bits are read back. -/
theorem readBack_int64 : ReadBack Int64 where
  ne_null n := by simp [encode]
  written n := (decode_int64_eq_ok_iff _ n).mpr rfl
  sorted n := (decode_int64_eq_ok_iff _ n).mpr rfl

namespace ReadBack

variable {α : Type} [Decodable α] [Encodable α] (h : ReadBack α) (a : Option α)

include h

/-- Optional values are read back if values are. -/
theorem written_option : decode (encode a) = .ok a := by
  cases a with
  | none => rfl
  | some a =>
    have hsome : encode (some a) = encode a := rfl
    rw [hsome, decode_option_of_ne_null (h.ne_null a), h.written]
    rfl

/-- Optional values with their objects sorted are read back if values are. -/
theorem sorted_option : decode (encode a).sorted = .ok a := by
  cases a with
  | none => rfl
  | some a =>
    have hsome : encode (some a) = encode a := rfl
    have hne : (encode a).sorted ≠ .null := by
      have := h.ne_null a
      cases hv : encode a <;> simp_all [Json.sorted]
    rw [hsome, decode_option_of_ne_null hne, h.sorted]
    rfl

end ReadBack

end Json

end Appliance
