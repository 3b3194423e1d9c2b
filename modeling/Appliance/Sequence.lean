/-!
# Request ids

A counter hands out the ids of requests: one more than the last one, and one again from 9999 on.
It can be moved ahead, so that the reply to an earlier request does not pass for one to a later, and
it adopts the id that a device gives. Both may take it anywhere; what it hands out next is in range
again, and it never overflows, because sums stop at the greatest value.
-/

namespace Appliance

/-- The counter of request ids: the id last handed out, or zero. -/
structure SequenceId where
  current : UInt32
  deriving DecidableEq, Repr

namespace SequenceId

/-- The counter before the first id. -/
def start : SequenceId := ⟨0⟩

/-- The number from which on ids start again. -/
def wrap : UInt32 := 9999

/-- The sum of two numbers, or the greatest number if it does not fit. -/
def cappedAdd (m n : UInt32) : UInt32 :=
  if m.toNat + n.toNat < 4294967296 then m + n else 0xffffffff

/-- The counter after it has handed out its next id, which is then its current one. -/
def next (s : SequenceId) : SequenceId :=
  let up := cappedAdd s.current 1
  ⟨if up ≥ wrap then 1 else up⟩

/-- The counter moved ahead. -/
def skip (s : SequenceId) (stride : UInt32) : SequenceId := ⟨cappedAdd s.current stride⟩

/-- The counter at the id that a device gives. -/
def observe (_ : SequenceId) (id : UInt32) : SequenceId := ⟨id⟩

end SequenceId

end Appliance
