import Appliance.Discovered

/-!
# Sets of devices that were built

A set keeps its hosts beside its devices, and asks only its hosts whether a device is new. What makes
the two agree is that a set was built from the empty one by insertions: then a host is in it exactly
if it is the host of one of its devices.
-/

namespace Appliance

/-- A host is that of one of some devices. -/
def IpAddress.IsHostAmong (ip : IpAddress) (devices : List Discovered) : Prop :=
  ∃ d ∈ devices, d.ip = ip

namespace IpAddress

instance (ip : IpAddress) (devices : List Discovered) : Decidable (ip.IsHostAmong devices) :=
  inferInstanceAs (Decidable (∃ d ∈ devices, d.ip = ip))

@[simp] theorem not_isHostAmong_nil (ip : IpAddress) : ¬ ip.IsHostAmong [] := by
  simp [IsHostAmong]

@[simp] theorem isHostAmong_singleton (ip : IpAddress) (d : Discovered) :
    ip.IsHostAmong [d] ↔ d.ip = ip := by
  simp [IsHostAmong]

@[simp] theorem isHostAmong_append (ip : IpAddress) (devices devices' : List Discovered) :
    ip.IsHostAmong (devices ++ devices') ↔ ip.IsHostAmong devices ∨ ip.IsHostAmong devices' := by
  simp only [IsHostAmong, List.mem_append, or_and_right, exists_or]

end IpAddress

namespace DiscoverySet

/-- A device of a host that was seen is not added. -/
theorem insert_of_contains {s : DiscoverySet} {d : Discovered} (h : s.contains d.ip = true) :
    s.insert d = (false, s) := by
  rw [insert, if_pos h]

/-- A device of another host is added behind the others. -/
theorem insert_of_not_contains {s : DiscoverySet} {d : Discovered}
    (h : ¬ s.contains d.ip = true) :
    s.insert d = (true, ⟨d.ip :: s.hosts, s.devices ++ [d]⟩) := by
  rw [insert, if_neg h]

/-- Sets that are built from the empty one by insertions. -/
inductive Built : DiscoverySet → Prop
  | empty : Built empty
  | insert (s : DiscoverySet) (d : Discovered) (h : Built s) : Built (s.insert d).2

/-- In a set that was built the hosts that were seen are those of its devices. -/
theorem Built.contains_iff {s : DiscoverySet} (h : s.Built) (ip : IpAddress) :
    s.contains ip = true ↔ ip.IsHostAmong s.toList := by
  induction h with
  | empty => simp [DiscoverySet.empty, contains, toList]
  | insert s d _ ih =>
    by_cases hseen : s.contains d.ip = true
    · rw [insert_of_contains hseen]
      exact ih
    · rw [insert_of_not_contains hseen]
      simp only [contains, toList, List.contains_iff_mem] at ih
      simp only [contains, toList, List.contains_iff_mem, List.mem_cons, ih,
        IpAddress.isHostAmong_append, IpAddress.isHostAmong_singleton]
      rw [or_comm, eq_comm]

end DiscoverySet

end Appliance
