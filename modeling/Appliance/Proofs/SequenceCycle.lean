import Appliance.Proofs.RequestIds
import Mathlib.Data.List.Perm.Subperm
import Mathlib.Data.List.Range
import Mathlib.Logic.Function.Iterate

/-!
# The cycle of request ids

A counter that is only asked for its next id goes round in a cycle: from the first id on, wherever the
counter stood before it, the ids ascend by one up to 9998 and start again at one. The place of an id in
the cycle is what carries the induction over the ids in a row; that no id of a full cycle is left out or
comes twice, and that the cycle has no shorter period, is read off the places.
-/

namespace Appliance

namespace SequenceId

/-- The ids that a counter hands out in a row, with nothing else done to it in between. -/
def idsInARow (s : SequenceId) (n : Nat) : List UInt32 := s.handedOut (List.replicate n .next)

/-- The id that comes a number of places after one from one on, in the cycle up to 9998. -/
def cycled (first places : Nat) : Nat := (first - 1 + places) % 9998 + 1

/-- The id after one of the cycle is one more, or one again at its end. -/
theorem cycled_succ (first places : Nat) :
    cycled first (places + 1) =
      if cycled first places + 1 < 9999 then cycled first places + 1 else 1 := by
  unfold cycled
  split <;> omega

/-- Ids of the cycle are the same where their places are a number of cycles apart. -/
theorem cycled_eq_iff (first i j : Nat) :
    cycled first i = cycled first j ↔ i % 9998 = j % 9998 := by
  unfold cycled
  omega

/-- The id some places after the next one is that of the cycle. -/
theorem toNat_current_iterate_next (s : SequenceId) (places : Nat) :
    (next^[places] s.next).current.toNat = cycled s.next.current.toNat places := by
  induction places with
  | zero =>
    have hbounds := s.current_next_bounds
    rw [Function.iterate_zero_apply, cycled]
    omega
  | succ places ih =>
    rw [Function.iterate_succ_apply', toNat_current_next, ih, cycled_succ]

/-- In a row a counter hands out what it holds after its next steps. -/
theorem idsInARow_eq_map (s : SequenceId) (n : Nat) :
    s.idsInARow n = (List.range n).map fun places => (next^[places] s.next).current := by
  induction n generalizing s with
  | zero => rfl
  | succ n ih =>
    have hstep : s.idsInARow (n + 1) = s.next.current :: s.next.idsInARow n := rfl
    rw [hstep, ih, List.range_succ_eq_map, List.map_cons, List.map_map]
    rfl

/-- The numbers of the ids in a row are those of the cycle. -/
theorem map_toNat_idsInARow (s : SequenceId) (n : Nat) :
    (s.idsInARow n).map (·.toNat) = (List.range n).map (cycled s.next.current.toNat) := by
  rw [idsInARow_eq_map, List.map_map]
  exact List.map_congr_left fun places _ => s.toNat_current_iterate_next places

/-- After some ids in a row the counter goes on from where it then stands. -/
theorem idsInARow_add (s : SequenceId) (m n : Nat) :
    s.idsInARow (m + n) = s.idsInARow m ++ (next^[m] s).idsInARow n := by
  have hmoved : (List.replicate m Move.next).foldl moved s = next^[m] s := by
    induction m generalizing s with
    | zero => rfl
    | succ m ih => exact ih s.next
  rw [idsInARow, List.replicate_add, handedOut_append, hmoved]
  rfl

/-- A row has as many ids as are asked for. -/
@[simp] theorem length_idsInARow (s : SequenceId) (n : Nat) : (s.idsInARow n).length = n := by
  rw [idsInARow_eq_map, List.length_map, List.length_range]

/-- Ids in a row are the same where their places are a number of cycles apart. -/
theorem getElem?_idsInARow_eq_iff (s : SequenceId) {n i j : Nat} (hi : i < n) (hj : j < n) :
    (s.idsInARow n)[i]? = (s.idsInARow n)[j]? ↔ i % 9998 = j % 9998 := by
  have hplace (k : Nat) (hk : k < n) :
      (s.idsInARow n)[k]? = some (next^[k] s.next).current := by
    rw [idsInARow_eq_map, List.getElem?_map, List.getElem?_range hk]
    rfl
  rw [hplace i hi, hplace j hj, Option.some.injEq, ← UInt32.toNat_inj, toNat_current_iterate_next,
    toNat_current_iterate_next, cycled_eq_iff]

/-- A full cycle has every number from 1 to 9998 once, wherever it starts. -/
theorem map_cycled_range_perm (first : Nat) :
    ((List.range 9998).map (cycled first)).Perm (List.range' 1 9998) := by
  have hnodup : ((List.range 9998).map (cycled first)).Nodup := by
    refine List.nodup_range.map_on ?_
    intro i hi j hj hsame
    rw [List.mem_range] at hi hj
    rwa [cycled_eq_iff, Nat.mod_eq_of_lt hi, Nat.mod_eq_of_lt hj] at hsame
  have hsubset : (List.range 9998).map (cycled first) ⊆ List.range' 1 9998 := by
    intro id hid
    obtain ⟨places, -, rfl⟩ := List.mem_map.mp hid
    rw [List.mem_range'_1, cycled]
    omega
  -- As many different numbers of the range as it has are all of its numbers.
  refine (List.subperm_of_subset hnodup hsubset).perm_of_length_le ?_
  rw [List.length_map, List.length_range, List.length_range']

/-- Wherever a counter stands, the ids that it hands out in a row are those of the cycle from the first
on, which is one more than the counter, or one if that is beyond 9998. Ids in a row are the same exactly
if their places are a number of cycles apart, so that they repeat with the period 9998 and with no
smaller one, and any 9998 ids in a row are the numbers from 1 to 9998, each of them once. -/
theorem ids_in_a_row (s : SequenceId) (n : Nat) :
    let first := if s.current.toNat < 9998 then s.current.toNat + 1 else 1
    (s.idsInARow n).map (·.toNat) =
        (List.range n).map (fun places => (first - 1 + places) % 9998 + 1) ∧
      (∀ i < n, ∀ j < n,
        (s.idsInARow n)[i]? = (s.idsInARow n)[j]? ↔ i % 9998 = j % 9998) ∧
      ∀ before after, n = before + (9998 + after) →
        ((((s.idsInARow n).drop before).take 9998).map (·.toNat)).Perm (List.range' 1 9998) := by
  intro first
  refine ⟨?_, fun i hi j hj => s.getElem?_idsInARow_eq_iff hi hj, ?_⟩
  · have hfirst : s.next.current.toNat = first := by
      rw [toNat_current_next]
      exact if_congr (by omega) rfl rfl
    rw [map_toNat_idsInARow, hfirst]
    rfl
  · rintro before after rfl
    have hwindow : ((s.idsInARow (before + (9998 + after))).drop before).take 9998 =
        (next^[before] s).idsInARow 9998 := by
      rw [idsInARow_add, idsInARow_add, List.drop_left' (length_idsInARow s before),
        List.take_left' (length_idsInARow _ 9998)]
    rw [hwindow, map_toNat_idsInARow]
    exact map_cycled_range_perm _

/-- The last id of the cycle is 9998. -/
example : idsInARow ⟨9997⟩ 3 = [9998, 1, 2] := by decide

end SequenceId

end Appliance
