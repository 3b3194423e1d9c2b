import Appliance.Proofs.JsonText

/-!
# Members by their keys

What members mean is the value that they give a key. Members may be kept in any order and give a key
several times; sorted they stand in ascending order with every key once, and give it the value given
last. Where no key comes twice the order does not matter at all, so that what is said here of the
value of a key holds of the members of every value that a reader produces.
-/

namespace Appliance.Json

/-! ## Keys that come once -/

/-- No key comes twice. -/
def Distinct (members : List (String × Json)) : Prop := (members.map (·.1)).Nodup

/-- Members in ascending order have no key twice. -/
theorem Ascending.distinct {members : List (String × Json)} (h : Ascending members) :
    Distinct members := by
  refine List.pairwise_map.mpr (h.imp ?_)
  intro m n hlt heq
  exact String.lt_irrefl n.1 (heq ▸ hlt)

/-- The first member comes before those with other keys. -/
theorem lookup_cons (key : String) (m : String × Json) (members : List (String × Json)) :
    (m :: members).lookup key = if key = m.1 then some m.2 else members.lookup key := by
  rw [List.lookup_cons]
  by_cases h : key = m.1
  · rw [if_pos h, beq_iff_eq.mpr h]
  · rw [if_neg h, beq_eq_false_iff_ne.mpr h]

/-- A member alone gives other keys no value. -/
theorem lookup_singleton_of_ne {key : String} {m : String × Json} (h : key ≠ m.1) :
    [m].lookup key = none := by
  rw [lookup_cons, if_neg h, List.lookup_nil]

/-- A key is given a value exactly if it is one of the members' keys. -/
theorem lookup_eq_none_iff (key : String) (members : List (String × Json)) :
    members.lookup key = none ↔ key ∉ members.map (·.1) := by
  induction members with
  | nil => simp
  | cons m members ih =>
    rw [lookup_cons, List.map_cons, List.mem_cons, not_or, ← ih]
    by_cases h : key = m.1 <;> simp [h]

/-- Where no key comes twice, the last member with a key is the first. -/
theorem Distinct.lookup_reverse {members : List (String × Json)} (h : Distinct members)
    (key : String) : members.reverse.lookup key = members.lookup key := by
  induction members with
  | nil => rfl
  | cons m members ih =>
    obtain ⟨hm, hmembers⟩ := List.nodup_cons.mp h
    rw [List.reverse_cons, List.lookup_append, ih hmembers, lookup_cons, lookup_cons]
    by_cases hkey : key = m.1
    · rw [if_pos hkey, if_pos hkey, (lookup_eq_none_iff key members).mpr (hkey ▸ hm)]
      rfl
    · rw [if_neg hkey, if_neg hkey, List.lookup_nil, Option.or_none]

/-! ## Sorted members -/

/-- A member put among others gives its key its value and leaves the other keys. -/
theorem lookup_insertDescending (k : String) (v : Json) (done : List (String × Json))
    (key : String) :
    (insertDescending k v done).lookup key = if key = k then some v else done.lookup key := by
  induction done with
  | nil => rw [insertDescending, lookup_cons]
  | cons m done ih =>
    obtain ⟨l, x⟩ := m
    rw [insertDescending]
    split
    · rw [lookup_cons]
    split
    · rename_i heq
      rw [lookup_cons, lookup_cons]
      by_cases hkey : key = k
      · rw [if_pos hkey, if_pos hkey]
      · have hother : key ≠ l := heq ▸ hkey
        rw [if_neg hkey, if_neg hkey, if_neg hother]
    · rename_i hne
      rw [lookup_cons, lookup_cons, ih]
      by_cases hkey : key = k
      · have hother : key ≠ l := fun heq => hne (heq.symm.trans hkey)
        rw [if_neg hother, if_pos hkey, if_pos hkey]
      · rw [if_neg hkey, if_neg hkey]

/-- Members taken up after others give a key the value given last. -/
theorem lookup_takeUp (members done : List (String × Json)) (key : String) :
    (takeUp done members).lookup key =
      (members.reverse.lookup key).or (done.lookup key) := by
  induction members generalizing done with
  | nil => rfl
  | cons m members ih =>
    have hstep : takeUp done (m :: members) = takeUp (insertDescending m.1 m.2 done) members := rfl
    rw [hstep, ih, lookup_insertDescending, List.reverse_cons, List.lookup_append, lookup_cons,
      Option.or_assoc]
    split <;> rfl

/-- A key that is put among others stands among theirs. -/
theorem mem_insertDescending {k : String} {v : Json} {done : List (String × Json)}
    {m : String × Json} (h : m ∈ insertDescending k v done) : m = (k, v) ∨ m ∈ done := by
  induction done with
  | nil => exact Or.inl (List.mem_singleton.mp h)
  | cons n done ih =>
    obtain ⟨l, x⟩ := n
    rw [insertDescending] at h
    split at h
    · exact List.mem_cons.mp h
    split at h
    · exact (List.mem_cons.mp h).imp_right (List.mem_cons_of_mem _)
    · obtain rfl | h := List.mem_cons.mp h
      · exact Or.inr List.mem_cons_self
      · exact (ih h).imp_right (List.mem_cons_of_mem _)

/-- A member put among others in descending order leaves them in that order. -/
theorem pairwise_insertDescending (k : String) (v : Json) (done : List (String × Json))
    (h : done.Pairwise fun m n => n.1 < m.1) :
    (insertDescending k v done).Pairwise fun m n => n.1 < m.1 := by
  induction done with
  | nil => exact List.pairwise_singleton _ _
  | cons n done ih =>
    obtain ⟨l, x⟩ := n
    obtain ⟨hn, hdone⟩ := List.pairwise_cons.mp h
    rw [insertDescending]
    split
    · rename_i hlt
      refine List.pairwise_cons.mpr ⟨?_, h⟩
      intro m hm
      obtain rfl | hm := List.mem_cons.mp hm
      · exact hlt
      · exact String.lt_trans (hn m hm) hlt
    split
    · rename_i heq
      exact List.pairwise_cons.mpr ⟨fun m hm => heq ▸ hn m hm, hdone⟩
    · rename_i hnot hne
      refine List.pairwise_cons.mpr ⟨?_, ih hdone⟩
      intro m hm
      obtain rfl | hm := mem_insertDescending hm
      · exact Std.lt_of_le_of_ne (Std.not_lt.mp hnot) (Ne.symm hne)
      · exact hn m hm

/-- Sorted members stand in ascending order of their keys. -/
theorem ascending_sortMembers (members : List (String × Json)) :
    Ascending (sortMembers members) := by
  have htake (members done : List (String × Json)) (h : done.Pairwise fun m n => n.1 < m.1) :
      (takeUp done members).Pairwise fun m n => n.1 < m.1 := by
    induction members generalizing done with
    | nil => exact h
    | cons m members ih => exact ih _ (pairwise_insertDescending m.1 m.2 done h)
  exact List.pairwise_reverse.mpr (htake members [] List.Pairwise.nil)

/-- Nothing stands among sorted members that did not before. -/
theorem mem_of_mem_sortMembers {members : List (String × Json)} {m : String × Json}
    (h : m ∈ sortMembers members) : m ∈ members := by
  have htake (members done : List (String × Json)) (h : m ∈ takeUp done members) :
      m ∈ done ∨ m ∈ members := by
    induction members generalizing done with
    | nil => exact Or.inl h
    | cons n members ih =>
      obtain hdone | hmembers := ih _ h
      · obtain rfl | hdone := mem_insertDescending hdone
        · exact Or.inr List.mem_cons_self
        · exact Or.inl hdone
      · exact Or.inr (List.mem_cons_of_mem n hmembers)
  exact (htake members [] (List.mem_reverse.mp h)).resolve_left List.not_mem_nil

/-- Sorted members give every key the value given last. -/
theorem lookup_sortMembers (members : List (String × Json)) (key : String) :
    (sortMembers members).lookup key = members.reverse.lookup key := by
  have htaken : (sortMembers members).reverse = takeUp [] members := List.reverse_reverse _
  rw [← (ascending_sortMembers members).distinct.lookup_reverse, htaken, lookup_takeUp,
    List.lookup_nil, Option.or_none]

/-! ## Members left out, and values sorted -/

/-- Members without some keys give these no value and leave the others. -/
theorem lookup_without (keys : List String) (members : List (String × Json)) (key : String) :
    (without keys members).lookup key = if key ∈ keys then none else members.lookup key := by
  induction members with
  | nil => simp [without]
  | cons m members ih =>
    by_cases hm : m.1 ∈ keys
    · have hstep : without keys (m :: members) = without keys members := by simp [without, hm]
      rw [hstep, ih, lookup_cons]
      by_cases hkey : key = m.1
      · rw [if_pos (hkey ▸ hm), if_pos (hkey ▸ hm)]
      · rw [if_neg hkey]
    · have hstep : without keys (m :: members) = m :: without keys members := by simp [without, hm]
      rw [hstep, lookup_cons, lookup_cons, ih]
      by_cases hkey : key = m.1
      · rw [if_pos hkey, if_pos hkey, if_neg (hkey ▸ hm)]
      · rw [if_neg hkey, if_neg hkey]

/-- The keys of members without some keys. -/
theorem map_fst_without (keys : List String) (members : List (String × Json)) :
    (without keys members).map (·.1) = (members.map (·.1)).filter (· ∉ keys) := by
  rw [List.filter_map, without]
  congr 2
  funext m
  simp

/-- Sorting the values leaves the keys. -/
theorem map_fst_sortedMembers (members : List (String × Json)) :
    (sortedMembers members).map (·.1) = members.map (·.1) := by
  induction members with
  | nil => rfl
  | cons m members ih => exact congrArg (m.1 :: ·) ih

/-- The values of members are sorted if each of them is. -/
theorem sortedMembers_of_forall {members : List (String × Json)}
    (h : ∀ m ∈ members, m.2.Sorted) : SortedMembers members := by
  induction members with
  | nil => trivial
  | cons m members ih =>
    exact ⟨h m List.mem_cons_self, ih fun n hn => h n (List.mem_cons_of_mem m hn)⟩

/-- Sorting the values sorts the value of every key. -/
theorem lookup_sortedMembers (members : List (String × Json)) (key : String) :
    (sortedMembers members).lookup key = (members.lookup key).map sorted := by
  induction members with
  | nil => rfl
  | cons m members ih =>
    obtain ⟨k, x⟩ := m
    rw [sortedMembers, lookup_cons, lookup_cons, ih]
    split <;> rfl

/-- Members are left out alike before their values are sorted and after. -/
theorem without_sortedMembers (keys : List String) (members : List (String × Json)) :
    without keys (sortedMembers members) = sortedMembers (without keys members) := by
  induction members with
  | nil => rfl
  | cons m members ih =>
    obtain ⟨k, x⟩ := m
    by_cases hk : k ∈ keys
    · simpa [without, sortedMembers, hk] using ih
    · simpa [without, sortedMembers, hk] using ih

/-! ## Fields that members fill -/

/-- What a field holds after members of which it may have been given a value. -/
def Fills {α : Type} (reads : Json → α → Prop) : Option Json → α → α → Prop
  | none, before, after => after = before
  | some v, _, after => reads v after

/-- Where no key comes twice, a field is filled by the first member or by the others. -/
theorem fills_cons_iff {α : Type} {reads : Json → α → Prop} {m : String × Json}
    {members : List (String × Json)} (h : Distinct (m :: members)) (key : String)
    (before after : α) :
    Fills reads ((m :: members).lookup key) before after ↔
      ∃ between, Fills reads ([m].lookup key) before between ∧
        Fills reads (members.lookup key) between after := by
  have hm := (lookup_eq_none_iff m.1 members).mpr (List.nodup_cons.mp h).1
  rw [lookup_cons, lookup_cons, List.lookup_nil]
  by_cases hkey : key = m.1
  · rw [if_pos hkey, if_pos hkey, hkey, hm]
    simp [Fills]
  · rw [if_neg hkey, if_neg hkey]
    simp [Fills]

end Appliance.Json
