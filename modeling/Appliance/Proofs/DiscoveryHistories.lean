import Appliance.Proofs.ScanReport
import Mathlib.Data.List.Dedup

/-!
# What sets of devices hold of their histories

A set of devices is what was inserted into it, and nothing else: the first device of each host, in the
order of first insertion. The hosts that it keeps beside its devices never get out of step with them,
which decides all questions about which hosts are in it, how many, and what a further insertion does.

Sets are copied as well, and a copy has the history of its original up to there. Several sets side by side
are therefore compared with their histories side by side: both go through the same actions, and an action
on one of them leaves the others alone.
-/

namespace Appliance

open Scanner (newcomers newcomers_concat isHostAmong_newcomers_iff)

namespace DiscoverySet

/-! ## One set -/

/-- The set with some devices inserted in turn. -/
def insertAll (s : DiscoverySet) (devices : List Discovered) : DiscoverySet :=
  devices.foldl (fun s d => (s.insert d).2) s

/-- The last device is inserted behind the others. -/
theorem insertAll_concat (s : DiscoverySet) (devices : List Discovered) (d : Discovered) :
    s.insertAll (devices ++ [d]) = ((s.insertAll devices).insert d).2 := by
  simp [insertAll]

/-- An insertion says whether the host was new. -/
theorem fst_insert (s : DiscoverySet) (d : Discovered) : (s.insert d).1 = !s.contains d.ip := by
  by_cases h : s.contains d.ip = true
  · rw [insert_of_contains h, h]
    rfl
  · rw [insert_of_not_contains h, Bool.eq_false_iff.mpr h]
    rfl

/-- An insertion that says that the host was not new changes nothing. -/
theorem snd_insert_of_fst (s : DiscoverySet) (d : Discovered) (h : (s.insert d).1 = false) :
    (s.insert d).2 = s := by
  rw [fst_insert, Bool.not_eq_false'] at h
  rw [insert_of_contains h]

/-- Devices of hosts that were seen change nothing. -/
theorem insertAll_of_forall_contains {s : DiscoverySet} {devices : List Discovered}
    (h : ∀ d ∈ devices, s.contains d.ip = true) : s.insertAll devices = s := by
  induction devices with
  | nil => rfl
  | cons d devices ih =>
    rw [List.forall_mem_cons] at h
    rw [insertAll, List.foldl_cons, insert_of_contains h.1]
    exact ih h.2

namespace Built

variable {s s' : DiscoverySet}

/-- A set stays built under insertions. -/
theorem insertAll (h : s.Built) (devices : List Discovered) : (s.insertAll devices).Built := by
  induction devices using List.reverseRecOn with
  | nil => exact h
  | append_singleton devices d ih =>
    rw [insertAll_concat]
    exact .insert _ d ih

/-- No two devices of a set have one host. -/
theorem nodup_map_ip (h : s.Built) : (s.toList.map Discovered.ip).Nodup := by
  induction h with
  | empty => exact List.nodup_nil
  | insert s d hs ih =>
    by_cases hseen : s.contains d.ip = true
    · rwa [insert_of_contains hseen]
    · have hnew : d.ip ∉ s.toList.map Discovered.ip := by
        simpa [IpAddress.IsHostAmong, hs.contains_iff] using hseen
      rw [insert_of_not_contains hseen]
      simpa [toList] using ih.concat hnew

/-- A host is in a set exactly if it is the host of one of its devices. -/
theorem mem_map_ip_iff (h : s.Built) (ip : IpAddress) :
    ip ∈ s.toList.map Discovered.ip ↔ s.contains ip = true := by
  rw [h.contains_iff, List.mem_map, IpAddress.IsHostAmong]

/-- Insertions add the first device of each host that is new, in order, behind the devices from
before. -/
theorem toList_insertAll (h : s.Built) (devices : List Discovered) :
    (s.insertAll devices).toList = s.toList ++ newcomers s devices := by
  -- From the right, because whether a device is new depends on all that came before it.
  induction devices using List.reverseRecOn with
  | nil => simp [DiscoverySet.insertAll, newcomers]
  | append_singleton devices d ih =>
    have hseen : (s.insertAll devices).contains d.ip = true ↔
        d.ip.IsHostAmong (s.toList ++ devices) := by
      rw [(h.insertAll devices).contains_iff, ih, isHostAmong_newcomers_iff]
    rw [insertAll_concat, newcomers_concat]
    by_cases hhost : d.ip.IsHostAmong (s.toList ++ devices)
    · rw [insert_of_contains (hseen.mpr hhost), if_pos hhost, List.append_nil, ih]
    · rw [insert_of_not_contains (mt hseen.mp hhost), if_neg hhost, ← List.append_assoc, ← ih]
      rfl

/-- After insertions the hosts from before and those of the devices are in the set. -/
theorem contains_insertAll_iff (h : s.Built) (devices : List Discovered) (ip : IpAddress) :
    (s.insertAll devices).contains ip = true ↔
      s.contains ip = true ∨ ip.IsHostAmong devices := by
  rw [(h.insertAll devices).contains_iff, h.toList_insertAll, isHostAmong_newcomers_iff,
    IpAddress.isHostAmong_append, h.contains_iff]

/-- Sets with the same hosts in them have devices of the same hosts, each host once. -/
theorem map_ip_perm (h : s.Built) (h' : s'.Built)
    (hsame : ∀ ip, s.contains ip = true ↔ s'.contains ip = true) :
    (s.toList.map Discovered.ip).Perm (s'.toList.map Discovered.ip) := by
  apply (List.perm_ext_iff_of_nodup h.nodup_map_ip h'.nodup_map_ip).mpr
  intro ip
  rw [h.mem_map_ip_iff, h'.mem_map_ip_iff, hsame]

/-- Lists of devices inserted in either order give the same hosts. -/
theorem insertAll_comm_perm (h : s.Built) (xs ys : List Discovered) :
    (((s.insertAll xs).insertAll ys).toList.map Discovered.ip).Perm
      (((s.insertAll ys).insertAll xs).toList.map Discovered.ip) := by
  apply ((h.insertAll xs).insertAll ys).map_ip_perm ((h.insertAll ys).insertAll xs)
  intro ip
  rw [(h.insertAll xs).contains_insertAll_iff, h.contains_insertAll_iff,
    (h.insertAll ys).contains_insertAll_iff, h.contains_insertAll_iff, or_right_comm]

end Built

/-- The set of what was inserted into the empty one. -/
def ofInserted (inserted : List Discovered) : DiscoverySet := empty.insertAll inserted

section

variable (inserted : List Discovered)

/-- It is built. -/
theorem built_ofInserted : (ofInserted inserted).Built := Built.empty.insertAll inserted

/-- It holds the first device of each host in the order of first insertion. -/
theorem toList_ofInserted : (ofInserted inserted).toList = newcomers .empty inserted :=
  Built.empty.toList_insertAll inserted

/-- The hosts of all that was inserted are in it. -/
theorem contains_ofInserted_iff (ip : IpAddress) :
    (ofInserted inserted).contains ip = true ↔ ip.IsHostAmong inserted := by
  rw [ofInserted, Built.empty.contains_insertAll_iff]
  simp [contains, empty]

/-- It has as many devices as there are different hosts. -/
theorem size_ofInserted :
    (ofInserted inserted).size = (inserted.map Discovered.ip).dedup.length := by
  have hperm : ((ofInserted inserted).toList.map Discovered.ip).Perm
      (inserted.map Discovered.ip).dedup := by
    apply (List.perm_ext_iff_of_nodup (built_ofInserted inserted).nodup_map_ip
      (List.nodup_dedup _)).mpr
    intro ip
    rw [(built_ofInserted inserted).mem_map_ip_iff, contains_ofInserted_iff, List.mem_dedup,
      List.mem_map, IpAddress.IsHostAmong]
  rw [← hperm.length_eq, List.length_map]
  rfl

end

/-! ## Sets side by side -/

/-- What is done with sets that are kept side by side. -/
inductive Action where
  /-- An empty set is put behind the others. -/
  | create
  /-- A copy of one of the sets is put behind the others. -/
  | copy (i : Nat)
  /-- A device is inserted into one of the sets. -/
  | insert (i : Nat) (d : Discovered)

namespace Action

/-- The action inserts nothing at a place. -/
def Spares (i : Nat) : Action → Prop
  | .create | .copy _ => True
  | .insert j _ => j ≠ i

variable {α β : Type}

/-- What an action makes of things side by side, if they start as one of them and devices are added to
them. -/
def perform (start : α) (add : α → Discovered → α) (held : List α) : Action → List α
  | .create => held ++ [start]
  | .copy i => held ++ held[i]?.toList
  | .insert i d => held.modify i fun a => add a d

/-- An action on things and on what is made of each of them goes on alike. -/
theorem map_perform (f : α → β) {start : α} {add : α → Discovered → α} (start' : β)
    (add' : β → Discovered → β) (hstart : f start = start')
    (hadd : ∀ a d, f (add a d) = add' (f a) d) (held : List α) (action : Action) :
    (action.perform start add held).map f =
      action.perform start' add' (held.map f) := by
  cases action with
  | create => simp [perform, hstart]
  | copy i => cases h : held[i]? <;> simp [perform, h]
  | insert i d =>
    apply List.ext_getElem?
    intro j
    simp only [perform, List.getElem?_map, List.getElem?_modify]
    cases held[j]? with
    | none => simp
    | some a => by_cases h : i = j <;> simp [h, hadd]

/-- An action that inserts nothing at a place leaves what is there alone. -/
theorem getElem?_perform (start : α) (add : α → Discovered → α) {held : List α} {i : Nat}
    (hi : i < held.length) {action : Action} (h : action.Spares i) :
    (action.perform start add held)[i]? = held[i]? := by
  cases action with
  | create => exact List.getElem?_append_left hi
  | copy j => exact List.getElem?_append_left hi
  | insert j d =>
    have hne : j ≠ i := h
    simp [perform, hne]

/-- No action takes anything away. -/
theorem length_le_perform (start : α) (add : α → Discovered → α) (held : List α)
    (action : Action) : held.length ≤ (action.perform start add held).length := by
  cases action with
  | create | copy i => simp [perform]
  | insert i d => simp [perform]

/-- What an action makes of sets. -/
def onSets (held : List DiscoverySet) (action : Action) : List DiscoverySet :=
  action.perform .empty (fun s d => (s.insert d).2) held

/-- What an action makes of histories: a device is added to those that were inserted before. -/
def onHistories (held : List (List Discovered)) (action : Action) : List (List Discovered) :=
  action.perform [] (fun inserted d => inserted ++ [d]) held

/-- The sets after some actions. -/
def sets (actions : List Action) : List DiscoverySet := actions.foldl onSets []

/-- The devices inserted into each set by some actions, or into its original before it was copied. -/
def histories (actions : List Action) : List (List Discovered) := actions.foldl onHistories []

/-- Every set is that of its history. -/
theorem sets_eq_map_histories (actions : List Action) :
    sets actions = (histories actions).map ofInserted := by
  induction actions using List.reverseRecOn with
  | nil => rfl
  | append_singleton actions action ih =>
    have hstep : (onHistories (histories actions) action).map ofInserted =
        onSets ((histories actions).map ofInserted) action :=
      map_perform ofInserted .empty (fun s d => (s.insert d).2) rfl (insertAll_concat empty)
        (histories actions) action
    rw [sets, histories, List.foldl_concat, List.foldl_concat, ← sets, ← histories, ih, hstep]

/-- Actions that insert nothing at a place leave the set there alone. -/
theorem getElem?_sets_append (actions later : List Action) {i : Nat}
    (hi : i < (sets actions).length) (h : ∀ action ∈ later, action.Spares i) :
    i < (sets (actions ++ later)).length ∧ (sets (actions ++ later))[i]? = (sets actions)[i]? := by
  induction later using List.reverseRecOn with
  | nil => simpa using hi
  | append_singleton later action ih =>
    rw [List.forall_mem_append] at h
    obtain ⟨hlength, hsame⟩ := ih h.1
    have hstep : sets (actions ++ (later ++ [action])) = onSets (sets (actions ++ later)) action := by
      simp [sets]
    rw [hstep]
    constructor
    · exact Nat.lt_of_lt_of_le hlength (length_le_perform _ _ _ action)
    · rw [onSets, getElem?_perform _ _ hlength (h.2 action (List.mem_singleton_self action)), hsame]

/-- Whatever sets are created, copied and filled, each of them holds the first device of each host that
was inserted into it, or into its original before, in the order of first insertion, and no two devices of
one host. A host is in it exactly if one of its devices has it; an insertion succeeds exactly if the host
is not in it, and else changes nothing; its size is the number of different hosts. What was inserted
before changes nothing when it is inserted again, and two lists of devices give the same hosts in either
order. Insertions into other sets, such as its copies, leave it as it is. -/
theorem sets_hold_first_of_each_host (actions : List Action) :
    (∀ (i : Nat) (s : DiscoverySet), (sets actions)[i]? = some s →
      ∃ inserted, (histories actions)[i]? = some inserted ∧
        s.toList = newcomers .empty inserted ∧
        (s.toList.map Discovered.ip).Nodup ∧
        (∀ ip, s.contains ip = true ↔ ip.IsHostAmong s.toList) ∧
        (∀ d, (s.insert d).1 = !s.contains d.ip) ∧
        (∀ d, (s.insert d).1 = false → (s.insert d).2 = s) ∧
        s.size = (inserted.map Discovered.ip).dedup.length ∧
        (∀ again : List Discovered, again ⊆ inserted → s.insertAll again = s) ∧
        ∀ xs ys : List Discovered,
          (((s.insertAll xs).insertAll ys).toList.map Discovered.ip).Perm
            (((s.insertAll ys).insertAll xs).toList.map Discovered.ip)) ∧
      (sets actions).length = (histories actions).length ∧
      ∀ (i : Nat) (later : List Action), i < (sets actions).length →
        (∀ action ∈ later, action.Spares i) →
          (sets (actions ++ later))[i]? = (sets actions)[i]? := by
  refine ⟨?_, ?_, fun i later hi h => (getElem?_sets_append actions later hi h).2⟩
  · intro i s hs
    rw [sets_eq_map_histories, List.getElem?_map, Option.map_eq_some_iff] at hs
    obtain ⟨inserted, hinserted, rfl⟩ := hs
    have hbuilt := built_ofInserted inserted
    refine ⟨inserted, hinserted, toList_ofInserted inserted, hbuilt.nodup_map_ip,
      hbuilt.contains_iff, fst_insert _, snd_insert_of_fst _, size_ofInserted inserted, ?_,
      hbuilt.insertAll_comm_perm⟩
    intro again hagain
    apply insertAll_of_forall_contains
    intro d hd
    exact (contains_ofInserted_iff inserted d.ip).mpr ⟨d, hagain hd, rfl⟩
  · rw [sets_eq_map_histories, List.length_map]

end Action

end DiscoverySet

end Appliance
