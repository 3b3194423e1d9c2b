import Appliance.Proofs.ClosingOutcomes

/-!
# Properties asked for in batches

A list of properties too long for one request is cut into slices, and each slice is one command. The
first part is about lists alone: slices of a size, all full but perhaps the last, number their items
as the whole list does, so that values that come slice by slice stand where their properties stand.

The second part is about the commands. Asking for properties is running the commands of the slices in
turn, up to the first that fails or gives no list; what a device does for them is what it does for a
run of as many commands, so that everything known of runs holds here too.
-/

namespace Appliance

/-! ## Slices -/

/-- The lengths of slices of a size: all have the size but the last one, which has one item at least
and no more than the size. -/
def SliceLengths (size : Nat) : List Nat → Prop
  | [] => True
  | [last] => 0 < last ∧ last ≤ size
  | length :: next :: rest => length = size ∧ SliceLengths size (next :: rest)

namespace SliceLengths

variable {α : Type} {size : Nat} {slices : List (List α)}

/-- A full slice goes in front of others. -/
theorem cons {length : Nat} {lengths : List Nat} (hlength : length = size) (hpos : 0 < size)
    (h : SliceLengths size lengths) : SliceLengths size (length :: lengths) := by
  cases lengths with
  | nil => exact ⟨hlength ▸ hpos, Nat.le_of_eq hlength⟩
  | cons next rest => exact ⟨hlength, h⟩

/-- No slice is empty. -/
theorem nil_not_mem (hpos : 0 < size) : (slices : List (List α)) →
    SliceLengths size (slices.map List.length) → [] ∉ slices
  | [], _ => List.not_mem_nil
  | [last], h => by
    rw [List.mem_singleton]
    rintro rfl
    exact Nat.lt_irrefl 0 h.1
  | first :: next :: rest, h => by
    rw [List.mem_cons]
    rintro (rfl | hmem)
    · exact Nat.lt_irrefl 0 (Nat.lt_of_lt_of_eq hpos h.1.symm)
    · exact nil_not_mem hpos (next :: rest) h.2 hmem

/-- There are as many slices as it takes to hold all items. -/
theorem length_eq (hpos : 0 < size) : (slices : List (List α)) →
    SliceLengths size (slices.map List.length) →
    slices.length = (slices.flatten.length + size - 1) / size
  | [], _ => by
    have hless : 0 + size - 1 < size := by omega
    exact (Nat.div_eq_of_lt hless).symm
  | [last], h => by
    have hone : last.length + size - 1 = (last.length - 1) + size := by
      have := h.1
      omega
    rw [List.flatten_singleton, hone, Nat.add_div_right _ hpos,
      Nat.div_eq_of_lt (by have := h.1; have := h.2; omega)]
    rfl
  | first :: next :: rest, h => by
    have hfirst : first.length = size := h.1
    have hmore : (first :: next :: rest).flatten.length + size - 1 =
        ((next :: rest).flatten.length + size - 1) + size := by
      rw [List.flatten_cons, List.length_append, hfirst]
      omega
    rw [hmore, Nat.add_div_right _ hpos, ← length_eq hpos (next :: rest) h.2]
    rfl

/-- An item stands in the whole list where its slice and its place in the slice say. -/
theorem getElem?_flatten {r : Nat} (hr : r < size) : (slices : List (List α)) →
    SliceLengths size (slices.map List.length) → (i : Nat) →
    slices.flatten[size * i + r]? = slices[i]?.bind (·[r]?)
  | [], _, _ => rfl
  | [last], h, i => by
    rw [List.flatten_singleton]
    cases i with
    | zero => rw [Nat.mul_zero, Nat.zero_add]; rfl
    | succ i =>
      have hout : last.length ≤ size * (i + 1) + r := by
        have hle : last.length ≤ size := h.2
        rw [Nat.mul_succ]
        omega
      rw [List.getElem?_eq_none hout]
      rfl
  | first :: next :: rest, h, i => by
    have hfirst : first.length = size := h.1
    rw [List.flatten_cons]
    cases i with
    | zero =>
      rw [Nat.mul_zero, Nat.zero_add, List.getElem?_append_left (hfirst ▸ hr)]
      rfl
    | succ i =>
      have hskip : size * (i + 1) + r - first.length = size * i + r := by
        rw [Nat.mul_succ, hfirst]
        omega
      have hbeyond : first.length ≤ size * (i + 1) + r := by
        rw [Nat.mul_succ, hfirst]
        omega
      rw [List.getElem?_append_right hbeyond, hskip, getElem?_flatten hr (next :: rest) h.2 i]
      rfl

end SliceLengths

namespace Device

section

variable {α : Type} {size : Nat}

/-- Pieces make up the list that they are of, if there may be as many as items. -/
theorem flatten_pieces (hpos : 0 < size) (n : Nat) (xs : List α) (hn : xs.length ≤ n) :
    (pieces size n xs).flatten = xs := by
  induction n generalizing xs with
  | zero =>
    rw [List.length_eq_zero_iff.mp (Nat.le_zero.mp hn)]
    rfl
  | succ n ih =>
    cases xs with
    | nil => rfl
    | cons x xs =>
      have hrest : ((x :: xs).drop size).length ≤ n := by
        rw [List.length_drop]
        omega
      have hstep : pieces size (n + 1) (x :: xs) =
          (x :: xs).take size :: pieces size n ((x :: xs).drop size) := rfl
      rw [hstep, List.flatten_cons, ih _ hrest, List.take_append_drop]

/-- Pieces are slices of their size. -/
theorem sliceLengths_pieces (hpos : 0 < size) (n : Nat) (xs : List α) :
    SliceLengths size ((pieces size n xs).map List.length) := by
  induction n generalizing xs with
  | zero => trivial
  | succ n ih =>
    cases xs with
    | nil => trivial
    | cons x xs =>
      have hstep : pieces size (n + 1) (x :: xs) =
          (x :: xs).take size :: pieces size n ((x :: xs).drop size) := rfl
      rw [hstep, List.map_cons]
      rcases Nat.le_total size (x :: xs).length with hfull | hshort
      · exact (ih _).cons (List.length_take_of_le hfull) hpos
      · have hnone : pieces size n ((x :: xs).drop size) = [] := by
          rw [List.drop_of_length_le hshort]
          cases n <;> rfl
        rw [hnone, List.take_of_length_le hshort]
        exact ⟨Nat.succ_pos _, hshort⟩

end

/-- At least one property is asked for at a time. -/
theorem pieceSize_pos (count : Nat) (most : Option Nat) : 0 < pieceSize count most := by
  unfold pieceSize
  split
  · exact Nat.succ_pos _
  · exact Nat.lt_of_lt_of_le Nat.one_pos (Nat.le_max_right count 1)

/-! ## The commands -/

/-- The answer to a command that gives a list. -/
def listAnswer (items : List Json) : Except DeviceError Answer := .ok (.value (.array items))

/-- How batches end, by the slices that were asked for and the answers to their commands: with all
slices, each answered by a list; with the first that failed; or with the first that gave a value that
is no list. -/
inductive BatchesEnd (getter : String) (all : List (List Json)) :
    List (List Json) → List (Except DeviceError Answer) →
      Except DeviceError (List (List Json)) → Prop
  | listed (replies : List (List Json)) :
      BatchesEnd getter all all (replies.map listAnswer) (.ok replies)
  | failed (asked replies : List (List Json)) (e : DeviceError) (hasked : asked <+: all) :
      BatchesEnd getter all asked (replies.map listAnswer ++ [.error e]) (.error e)
  | unlisted (asked replies : List (List Json)) (v : Json) (hasked : asked <+: all)
      (hv : ∀ items, v ≠ .array items) :
      BatchesEnd getter all asked (replies.map listAnswer ++ [.ok (.value v)])
        (.error (.invalidResponse (.notList getter v)))

/-- A list answered leaves it to the other slices. -/
theorem BatchesEnd.cons {getter : String} {all asked : List (List Json)}
    {answers : List (Except DeviceError Answer)} {result : Except DeviceError (List (List Json))}
    (h : BatchesEnd getter all asked answers result) (slice items : List Json) :
    BatchesEnd getter (slice :: all) (slice :: asked) (listAnswer items :: answers)
      (result.map (items :: ·)) := by
  cases h with
  | listed replies => exact .listed (items :: replies)
  | failed _ replies e hasked =>
    exact .failed (slice :: asked) (items :: replies) e (List.cons_prefix_cons.mpr ⟨rfl, hasked⟩)
  | unlisted _ replies v hasked hv =>
    exact .unlisted (slice :: asked) (items :: replies) v
      (List.cons_prefix_cons.mpr ⟨rfl, hasked⟩) hv

/-- Slices asked for are the first ones. -/
theorem BatchesEnd.isPrefix {getter : String} {all asked : List (List Json)}
    {answers : List (Except DeviceError Answer)} {result : Except DeviceError (List (List Json))}
    (h : BatchesEnd getter all asked answers result) : asked <+: all := by
  cases h with
  | listed => exact List.prefix_refl all
  | failed _ _ _ hasked => exact hasked
  | unlisted _ _ _ hasked _ => exact hasked

variable {σ : Type}

/-- A value that is no list ends the batches. -/
theorem afterPiece_of_ne_array (getter : String) (rest : List (List Json)) (values : List Json)
    (v : Json) (hv : ∀ items, v ≠ .array items) (d : Device σ) :
    afterPiece getter rest values (.ok v) d =
      (.error (.invalidResponse (.notList getter v)), d) := by
  cases v with
  | array items => exact absurd rfl (hv items)
  | null | bool _ | number _ | string _ | object _ => rfl

/-- The commands that ask for slices of properties. -/
def batches (getter : String) (slices : List (List Json)) : List Call :=
  slices.map fun slice => .send getter (.array slice)

/-- Asking for slices runs the commands of the first ones of them, and its result is how these end. -/
theorem exists_batches_collect (getter : String) (all : List (List Json)) (values : List Json)
    (d : Device σ) :
    ∃ asked result, BatchesEnd getter all asked (d.run (batches getter asked)).1 result ∧
      collect getter all values d =
        (result.map fun replies => values ++ replies.flatten, (d.run (batches getter asked)).2) := by
  induction all generalizing values d with
  | nil =>
    refine ⟨[], .ok [], .listed [], ?_⟩
    rw [Except.map, List.flatten_nil, List.append_nil]
    rfl
  | cons slice rest ih =>
    have hrun (asked : List (List Json)) : d.run (batches getter (slice :: asked)) =
        ((d.send getter (.array slice)).1.map .value ::
            ((d.send getter (.array slice)).2.run (batches getter asked)).1,
          ((d.send getter (.array slice)).2.run (batches getter asked)).2) := rfl
    have hone : [slice] <+: slice :: rest := List.prefix_append [slice] rest
    rw [collect_cons]
    beta_reduce
    generalize d.send getter (.array slice) = sent at hrun ⊢
    obtain ⟨answer, after⟩ := sent
    cases answer with
    | error e =>
      refine ⟨[slice], .error e, ?_, ?_⟩
      · rw [hrun]
        exact .failed [slice] [] e hone
      · rw [hrun]
        rfl
    | ok v =>
      by_cases hlist : ∃ items, v = .array items
      · obtain ⟨more, rfl⟩ := hlist
        obtain ⟨asked, result, hend, hcollect⟩ := ih (values ++ more) after
        refine ⟨slice :: asked, result.map (more :: ·), ?_, ?_⟩
        · rw [hrun]
          exact hend.cons slice more
        · rw [hrun, afterPiece, hcollect]
          cases result with
          | error e => rfl
          | ok replies =>
            rw [Except.map, Except.map, Except.map, List.flatten_cons, List.append_assoc]
      · have hv : ∀ items, v ≠ .array items := fun items hitems => hlist ⟨items, hitems⟩
        refine ⟨[slice], .error (.invalidResponse (.notList getter v)), ?_, ?_⟩
        · rw [hrun]
          exact .unlisted [slice] [] v hone hv
        · rw [hrun, afterPiece_of_ne_array getter rest values v hv]
          rfl

/-- No properties are no slices. -/
theorem getProperties_nil (d : Device σ) (getter : Option String) (most : Option Nat) :
    d.getProperties [] getter most = (.ok [], d) := rfl

/-- Properties are asked for in slices of the size given, or all at once if none or zero is given, the
slices being consecutive, not empty and full but for the last. Asking is running the commands of the
slices in turn. If each is answered by a list, all have been made and the result is the lists joined,
so that values that come as many as were asked for stand where their properties stand. It ends at the
first command that fails, with its error, or that is not answered by a list, with an error that says
so, and no later slice is asked for. Of no properties nothing is asked. -/
theorem getProperties_in_batches (d : Device σ) (properties : List Json) (getter : Option String)
    (most : Option Nat) :
    ∃ (size : Nat) (slices asked : List (List Json)) (answers : List (Except DeviceError Answer))
      (after : Device σ),
      0 < size ∧ (∀ n, 0 < n → most = some n → size = n) ∧
      (most = none ∨ most = some 0 → size = max properties.length 1) ∧
      slices.flatten = properties ∧ SliceLengths size (slices.map List.length) ∧ [] ∉ slices ∧
      slices.length = (properties.length + size - 1) / size ∧
      asked <+: slices ∧ d.run (batches (getter.getD propertyMethod) asked) = (answers, after) ∧
      ((∃ (replies : List (List Json)) (notes : List Note),
          asked = slices ∧ answers = replies.map listAnswer ∧
          d.getProperties properties getter most = (.ok replies.flatten, after.noteAll notes) ∧
          (replies.map List.length = slices.map List.length →
            replies.flatten.length = properties.length ∧
            ∀ i r, r < size →
              properties[size * i + r]? = slices[i]?.bind (·[r]?) ∧
              replies.flatten[size * i + r]? = replies[i]?.bind (·[r]?))) ∨
        (∃ (replies : List (List Json)) (e : DeviceError),
          answers = replies.map listAnswer ++ [.error e] ∧
          d.getProperties properties getter most = (.error e, after)) ∨
        (∃ (replies : List (List Json)) (v : Json),
          answers = replies.map listAnswer ++ [.ok (.value v)] ∧ (∀ items, v ≠ .array items) ∧
          d.getProperties properties getter most =
            (.error (.invalidResponse (.notList (getter.getD propertyMethod) v)), after))) ∧
      (properties = [] → d.getProperties properties getter most = (.ok [], d)) := by
  obtain ⟨asked, result, hend, hcollect⟩ :=
    exists_batches_collect (getter.getD propertyMethod)
      (pieces (pieceSize properties.length most) properties.length properties) [] d
  have hpos := pieceSize_pos properties.length most
  have hflatten := flatten_pieces hpos properties.length properties (Nat.le_refl _)
  have hslices := sliceLengths_pieces hpos properties.length properties
  have hcount := hslices.length_eq hpos
  have hget := getProperties_eq_afterCollect d properties getter most
  rw [hcollect] at hget
  rw [hflatten] at hcount
  refine ⟨pieceSize properties.length most, _, asked, _, _, hpos, ?_, ?_, hflatten, hslices,
    hslices.nil_not_mem hpos, hcount, hend.isPrefix, rfl, ?_, ?_⟩
  · rintro (_ | n) hn rfl
    · cases hn
    · rfl
  · rintro (rfl | rfl) <;> rfl
  · generalize pieces (pieceSize properties.length most) properties.length properties = slices at *
    generalize d.run (batches (getter.getD propertyMethod) asked) = ran at *
    obtain ⟨answers, after⟩ := ran
    dsimp only at hend hget ⊢
    rw [hget]
    cases hend with
    | listed replies =>
      left
      refine ⟨replies, if replies.flatten.length ≠ properties.length then
        [.propertyCount properties.length replies.flatten.length] else [], rfl, rfl, ?_, ?_⟩
      · rw [Except.map, List.nil_append, afterCollect]
        split <;> rfl
      · intro hlengths
        have hreplies : SliceLengths (pieceSize properties.length most)
            (replies.map List.length) := hlengths ▸ hslices
        refine ⟨?_, fun i r hr => ⟨?_, SliceLengths.getElem?_flatten hr replies hreplies i⟩⟩
        · rw [← hflatten, List.length_flatten, List.length_flatten, hlengths]
        · rw [← SliceLengths.getElem?_flatten hr _ hslices i, hflatten]
    | failed _ replies e _ => exact Or.inr (Or.inl ⟨replies, e, rfl, rfl⟩)
    | unlisted _ replies v _ hv => exact Or.inr (Or.inr ⟨replies, v, rfl, hv, rfl⟩)
  · rintro rfl
    exact d.getProperties_nil getter most

end Device

end Appliance
