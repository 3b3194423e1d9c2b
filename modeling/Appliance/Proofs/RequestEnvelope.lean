import Appliance.Proofs.RequestReading

/-!
# Requests with further members

Maps of further members are merged into a request one after another. Each is sorted in behind those
before it, so that what is kept stands in ascending order and gives every key the value given last;
that is the invariant of merging, and what is written and read back follows from it. On the wire a
further member stands for the request's own member with its key, and no key comes twice.
-/

namespace Appliance

namespace Request

open Json (Distinct Ascending)

/-! ## Merging -/

/-- A request after maps of further members have been merged into it one after another. -/
def merged (r : Request) (maps : List (List (String × Json))) : Request := maps.foldl withExtra r

/-- The value given last for a key by maps that follow one another. -/
def lastGiven (maps : List (List (String × Json))) (key : String) : Option Json :=
  maps.flatten.reverse.lookup key

/-- A key is given a value by one of the maps. -/
theorem lastGiven_ne_none_iff (maps : List (List (String × Json))) (key : String) :
    lastGiven maps key ≠ none ↔ ∃ map ∈ maps, key ∈ map.map (·.1) := by
  rw [lastGiven, Ne, Json.lookup_eq_none_iff, Classical.not_not, List.map_reverse, List.mem_reverse,
    List.map_flatten, List.mem_flatten]
  constructor
  · rintro ⟨keys, hkeys, hkey⟩
    obtain ⟨map, hmap, rfl⟩ := List.mem_map.mp hkeys
    exact ⟨map, hmap, hkey⟩
  · rintro ⟨map, hmap, hkey⟩
    exact ⟨_, List.mem_map_of_mem hmap, hkey⟩

/-- A map more gives its keys their values, and leaves the other keys. -/
theorem lookup_withExtra (r : Request) (h : Ascending r.extra) (members : List (String × Json))
    (key : String) :
    (r.withExtra members).extra.lookup key =
      (members.reverse.lookup key).or (r.extra.lookup key) := by
  have hextra : (r.withExtra members).extra = Json.sortMembers (r.extra ++ members) := rfl
  rw [hextra, Json.lookup_sortMembers, List.reverse_append, List.lookup_append,
    h.distinct.lookup_reverse]

/-- Merging keeps further members in ascending order, gives every key the value given last, and
leaves a request's own members. -/
theorem merged_spec (maps : List (List (String × Json))) (r : Request) (h : Ascending r.extra) :
    Ascending (r.merged maps).extra ∧ r.merged maps = { r with extra := (r.merged maps).extra } ∧
      ∀ key, (r.merged maps).extra.lookup key = (lastGiven maps key).or (r.extra.lookup key) := by
  induction maps generalizing r with
  | nil => exact ⟨h, rfl, fun key => rfl⟩
  | cons members maps ih =>
    obtain ⟨hascending, hown, hlookup⟩ := ih (r.withExtra members) (Json.ascending_sortMembers _)
    refine ⟨hascending, hown, fun key => (hlookup key).trans ?_⟩
    rw [lookup_withExtra r h, lastGiven, lastGiven, List.flatten_cons, List.reverse_append,
      List.lookup_append, Option.or_assoc]

/-- What is kept of further members was among them or in one of the maps. -/
theorem mem_of_mem_merged (maps : List (List (String × Json))) (r : Request) {m : String × Json}
    (hm : m ∈ (r.merged maps).extra) : m ∈ r.extra ∨ ∃ map ∈ maps, m ∈ map := by
  induction maps generalizing r with
  | nil => exact Or.inl hm
  | cons members maps ih =>
    obtain hm | ⟨map, hmap, hm⟩ := ih (r.withExtra members) hm
    · obtain hm | hm := List.mem_append.mp (Json.mem_of_mem_sortMembers hm)
      · exact Or.inl hm
      · exact Or.inr ⟨members, List.mem_cons_self, hm⟩
    · exact Or.inr ⟨map, List.mem_cons_of_mem members hmap, hm⟩

/-! ## On the wire -/

/-- A key on the wire has the value of the further member, if there is one, or else of the own. -/
theorem lookup_members (r : Request) (key : String) :
    r.members.lookup key = (r.extra.lookup key).or (r.baseMembers.lookup key) := by
  rw [members, List.lookup_append, Json.lookup_without]
  by_cases hkey : key ∈ r.extra.map (·.1)
  · have hne : r.extra.lookup key ≠ none := fun h => (Json.lookup_eq_none_iff key r.extra).mp h hkey
    obtain ⟨v, hv⟩ := Option.ne_none_iff_exists'.mp hne
    rw [if_pos hkey, hv]
    rfl
  · rw [if_neg hkey, (Json.lookup_eq_none_iff key r.extra).mpr hkey, Option.or_none, Option.none_or]

/-- The keys on the wire are those of the members that are not replaced, and the further ones. -/
theorem map_fst_members (r : Request) :
    r.members.map (·.1) = baseKeys.filter (· ∉ r.extra.map (·.1)) ++ r.extra.map (·.1) := by
  have hbase : r.baseMembers.map (·.1) = baseKeys := rfl
  rw [members, List.map_append, Json.map_fst_without, hbase]

/-- No key comes twice on the wire. -/
theorem distinct_members (r : Request) (h : Ascending r.extra) : Distinct r.members := by
  unfold Distinct
  rw [map_fst_members, List.nodup_append]
  refine ⟨List.Pairwise.filter _ (by decide), h.distinct, ?_⟩
  intro key hkey key' hkey' heq
  have hnot := (List.mem_filter.mp hkey).2
  rw [decide_eq_true_eq] at hnot
  exact hnot (heq ▸ hkey')

/-- Without a request's own keys only further members are left of what is written. -/
theorem without_members (r : Request) :
    Json.without baseKeys r.members = Json.without baseKeys r.extra := by
  have hown : Json.without baseKeys (Json.without (r.extra.map (·.1)) r.baseMembers) = [] := by
    rw [← List.map_eq_nil_iff, Json.map_fst_without, Json.map_fst_without]
    have hbase : r.baseMembers.map (·.1) = baseKeys := rfl
    rw [hbase, List.filter_eq_nil_iff]
    intro key hkey
    simp [(List.mem_filter.mp hkey).1]
  have happend (ms ns : List (String × Json)) :
      Json.without baseKeys (ms ++ ns) = Json.without baseKeys ms ++ Json.without baseKeys ns :=
    List.filter_append ms ns
  rw [members, happend, hown, List.nil_append]

/-! ## Read back -/

/-- A request with its values sorted. -/
def sorted (r : Request) : Request :=
  ⟨r.id, r.method, r.params.sorted, Json.sortedMembers r.extra⟩

/-- Members in ascending order stand in that order with their values sorted. -/
theorem ascending_sortedMembers {ms : List (String × Json)} (h : Ascending ms) :
    Ascending (Json.sortedMembers ms) := by
  have hkeys : (ms.map (·.1)).Pairwise (· < ·) := List.pairwise_map.mpr h
  rw [← Json.map_fst_sortedMembers] at hkeys
  exact List.pairwise_map.mp hkeys

/-- What is written of a request is read as the request that the members on the wire make. -/
theorem parse_toJson_eq_ok_iff (r : Request) (h : Ascending r.extra) (hv : r.toJson.Integral)
    (hdepth : r.toJson.depth ≤ Json.maxDepth) (back : Request) :
    parse r.toJson.octets = .ok back ↔
      r.members.lookup "id" = some (.int back.id.toNat) ∧
        r.members.lookup "method" = some (.string back.method) ∧
          (r.members.lookup "params").map Json.sorted = some back.params ∧
            back.extra = Json.without baseKeys (Json.sortedMembers r.extra) := by
  have hkept : Ascending (Json.sortedMembers (Json.without baseKeys r.extra)) :=
    ascending_sortedMembers (List.Pairwise.filter _ h)
  rw [toJson, parse_object_eq_ok_iff r.members hv hdepth (distinct_members r h), without_members,
    Json.sortMembers_of_ascending _ hkept, Json.without_sortedMembers]

/-- A request of which no member is replaced is read back. -/
theorem parse_toJson_of_own (r : Request) (h : Ascending r.extra)
    (hown : ∀ key ∈ baseKeys, r.extra.lookup key = none) (hv : r.toJson.Integral)
    (hdepth : r.toJson.depth ≤ Json.maxDepth) : parse r.toJson.octets = .ok r.sorted := by
  have hvalue (key : String) (hkey : key ∈ baseKeys) :
      r.members.lookup key = r.baseMembers.lookup key := by
    rw [lookup_members, hown key hkey, Option.none_or]
  have hextra : Json.without baseKeys r.extra = r.extra := by
    refine List.filter_eq_self.mpr fun m hm => ?_
    have hkey : m.1 ∉ baseKeys := by
      intro hkey
      exact (Json.lookup_eq_none_iff m.1 r.extra).mp (hown m.1 hkey) (List.mem_map_of_mem hm)
    simpa using hkey
  rw [parse_toJson_eq_ok_iff r h hv hdepth, hvalue "id" (by decide), hvalue "method" (by decide),
    hvalue "params" (by decide), Json.without_sortedMembers, hextra]
  exact ⟨rfl, rfl, rfl, rfl⟩

/-! ## The envelope -/

/-- What members on the wire are: those of a request's own that no map replaces, in their order,
then the keys of the maps in ascending order. No key comes twice, and each has the value given last
for it, if it is given any, or else that of the request's own. -/
structure Envelope (base : Request) (maps : List (List (String × Json)))
    (members : List (String × Json)) : Prop where
  keys : ∃ further : List String, further.Pairwise (· < ·) ∧
    (∀ key, key ∈ further ↔ ∃ map ∈ maps, key ∈ map.map (·.1)) ∧
      members.map (·.1) = ["id", "method", "params"].filter (· ∉ further) ++ further
  distinct : (members.map (·.1)).Nodup
  value (key : String) :
    members.lookup key = (lastGiven maps key).or (base.baseMembers.lookup key)

/-- Members that take the place of a request's id and method have their types. -/
structure Readable (maps : List (List (String × Json))) : Prop where
  id (v : Json) (h : lastGiven maps "id" = some v) : ∃ n : Nat, v = .int n ∧ n < 4294967296
  method (v : Json) (h : lastGiven maps "method" = some v) : ∃ s, v = .string s

/-- What is read of a request that maps have been merged into: its own members are those given last,
if they are given, and they are gone from the further ones. -/
structure ReadBack (base : Request) (maps : List (List (String × Json))) (back : Request) :
    Prop where
  id : (lastGiven maps "id").getD (.int base.id.toNat) = .int back.id.toNat
  method : (lastGiven maps "method").getD (.string base.method) = .string back.method
  params : ((lastGiven maps "params").getD base.params).sorted = back.params
  extra : back.extra = Json.without baseKeys (Json.sortedMembers (base.merged maps).extra)

section

variable {base : Request} (h : base.extra = []) (maps : List (List (String × Json)))

include h

/-- What is merged into a request without further members stands in ascending order. -/
theorem ascending_merged : Ascending (base.merged maps).extra :=
  (merged_spec maps base (h ▸ List.Pairwise.nil)).1

/-- A further member of a request that had none has the value given last. -/
theorem lookup_merged (key : String) :
    (base.merged maps).extra.lookup key = lastGiven maps key := by
  obtain ⟨-, -, hlookup⟩ := merged_spec maps base (h ▸ List.Pairwise.nil)
  rw [hlookup, h, List.lookup_nil, Option.or_none]

/-- A key on the wire has the value given last for it or that of the own member. -/
theorem lookup_members_merged (key : String) :
    (base.merged maps).members.lookup key =
      (lastGiven maps key).or (base.baseMembers.lookup key) := by
  obtain ⟨-, hown, -⟩ := merged_spec maps base (h ▸ List.Pairwise.nil)
  have hbase : (base.merged maps).baseMembers = base.baseMembers :=
    (congrArg baseMembers hown).trans rfl
  rw [lookup_members, hbase, lookup_merged h]

/-- Maps merged into a request make an envelope. -/
theorem envelope_merged : Envelope base maps (base.merged maps).members := by
  have hascending := ascending_merged h maps
  have hkeys : ((base.merged maps).extra.map (·.1)).Pairwise (· < ·) :=
    List.pairwise_map.mpr hascending
  refine ⟨⟨_, hkeys, ?_, map_fst_members _⟩, distinct_members _ hascending,
    lookup_members_merged h maps⟩
  intro key
  rw [← lastGiven_ne_none_iff, ← lookup_merged h, Ne, Json.lookup_eq_none_iff, Classical.not_not]

variable (hv : (base.merged maps).toJson.Integral)
  (hdepth : (base.merged maps).toJson.depth ≤ Json.maxDepth)

include hv hdepth

/-- Reading back gives exactly the request of the envelope. -/
theorem parse_merged_eq_ok_iff (back : Request) :
    parse (base.merged maps).toJson.octets = .ok back ↔ ReadBack base maps back := by
  have hid : base.baseMembers.lookup "id" = some (.int base.id.toNat) := rfl
  have hmethod : base.baseMembers.lookup "method" = some (.string base.method) := rfl
  have hparams : base.baseMembers.lookup "params" = some base.params := rfl
  have hor (given : Option Json) (v : Json) : given.or (some v) = some (given.getD v) := by
    cases given <;> rfl
  rw [parse_toJson_eq_ok_iff _ (ascending_merged h maps) hv hdepth,
    lookup_members_merged h, lookup_members_merged h, lookup_members_merged h, hid, hmethod,
    hparams, hor, hor, hor, Option.map_some, Option.some.injEq, Option.some.injEq,
    Option.some.injEq]
  exact ⟨fun ⟨hid, hmethod, hparams, hextra⟩ => ⟨hid, hmethod, hparams, hextra⟩,
    fun ⟨hid, hmethod, hparams, hextra⟩ => ⟨hid, hmethod, hparams, hextra⟩⟩

/-- Reading back succeeds exactly if what takes the place of the id and the method has their
types. -/
theorem exists_parse_merged_iff :
    (∃ back, parse (base.merged maps).toJson.octets = .ok back) ↔ Readable maps := by
  simp only [parse_merged_eq_ok_iff h maps hv hdepth]
  constructor
  · rintro ⟨back, hback⟩
    refine ⟨?_, ?_⟩
    · intro v hgiven
      have hid := hback.id
      rw [hgiven, Option.getD_some] at hid
      exact ⟨back.id.toNat, hid, back.id.toNat_lt⟩
    · intro v hgiven
      have hmethod := hback.method
      rw [hgiven, Option.getD_some] at hmethod
      exact ⟨back.method, hmethod⟩
  · intro hreadable
    obtain ⟨n, hn⟩ : ∃ n : UInt32, (lastGiven maps "id").getD (.int base.id.toNat) =
        .int n.toNat := by
      cases hgiven : lastGiven maps "id" with
      | none => exact ⟨base.id, rfl⟩
      | some v =>
        obtain ⟨n, rfl, hlt⟩ := hreadable.id v hgiven
        refine ⟨UInt32.ofNat n, ?_⟩
        rw [Option.getD_some, UInt32.toNat_ofNat_of_lt' hlt]
    obtain ⟨s, hs⟩ : ∃ s, (lastGiven maps "method").getD (.string base.method) = .string s := by
      cases hgiven : lastGiven maps "method" with
      | none => exact ⟨base.method, rfl⟩
      | some v =>
        obtain ⟨s, rfl⟩ := hreadable.method v hgiven
        exact ⟨s, rfl⟩
    exact ⟨⟨n, s, _, _⟩, hn, hs, rfl, rfl⟩

end

/-- A request whose values are sorted stays as it is. -/
theorem sorted_eq_self (r : Request) (hparams : r.params.Sorted)
    (hextra : ∀ m ∈ r.extra, m.2.Sorted) : r.sorted = r := by
  rw [sorted, Json.sorted_eq_self r.params hparams,
    Json.sortedMembers_eq_self r.extra (Json.sortedMembers_of_forall hextra)]

/-- Parameters that are given, or none, are sorted if the value is. -/
theorem sorted_params_new (id : UInt32) (method : String) (params : Json) (h : params.Sorted) :
    (new id method params).params.Sorted := by
  unfold new
  dsimp only
  split
  · trivial
  · exact h

/-- Every request that maps of further members are merged into is written as an object that is their
envelope. If its numbers are integers of 64 bits and it is nested no deeper than a reader goes, then
it is read back, with its values sorted, where none of its own members is replaced. Where some are,
something is read exactly if what replaces the id is a number of 32 bits and what replaces the
method is a string, and these are then its own members. Values that are sorted stay as they are. -/
theorem merged_on_the_wire (id : UInt32) (method : String) (params : Json)
    (maps : List (List (String × Json))) :
    let base := new id method params
    let r := base.merged maps
    r.toJson = .object r.members ∧ Envelope base maps r.members ∧
      (r.toJson.Integral → r.toJson.depth ≤ Json.maxDepth →
        ((∀ key ∈ baseKeys, lastGiven maps key = none) →
          parse r.toJson.octets = .ok r.sorted) ∧
        ((∃ back, parse r.toJson.octets = .ok back) ↔ Readable maps) ∧
        ∀ back, parse r.toJson.octets = .ok back ↔ ReadBack base maps back) ∧
      (params.Sorted → (∀ map ∈ maps, ∀ m ∈ map, m.2.Sorted) → r.sorted = r) := by
  intro base r
  have hbase : base.extra = [] := rfl
  refine ⟨rfl, envelope_merged hbase maps, ?_, ?_⟩
  · intro hv hdepth
    refine ⟨?_, exists_parse_merged_iff hbase maps hv hdepth,
      parse_merged_eq_ok_iff hbase maps hv hdepth⟩
    intro hown
    refine parse_toJson_of_own r (ascending_merged hbase maps) ?_ hv hdepth
    intro key hkey
    rw [lookup_merged hbase, hown key hkey]
  · intro hparams hmaps
    obtain ⟨-, hown, -⟩ := merged_spec maps base (hbase ▸ List.Pairwise.nil)
    refine sorted_eq_self r ?_ ?_
    · have hsame : r.params = base.params := (congrArg Request.params hown).trans rfl
      exact hsame ▸ sorted_params_new id method params hparams
    · intro m hm
      obtain hm | ⟨map, hmap, hm⟩ := mem_of_mem_merged maps base hm
      · rw [hbase] at hm
        cases hm
      · exact hmaps map hmap m hm

/-- The number given for the id is the id that is read. -/
theorem merged_id_on_the_wire :
    parse (((new 1 "x" (.array [])).merged [[("id", .int 5)]]).toJson.octets) =
      .ok ⟨5, "x", .array [], []⟩ := by
  obtain ⟨-, -, hread, -⟩ := merged_on_the_wire 1 "x" (.array []) [[("id", .int 5)]]
  have hsmall : (Json.int 5).Integral := And.intro (by decide) (by decide)
  obtain ⟨-, hexists, hback⟩ := hread ⟨trivial, trivial, hsmall, trivial⟩ (by decide)
  obtain ⟨back, hparse⟩ := hexists.mpr ⟨fun v h => ⟨5, (Option.some.inj h).symm, by decide⟩, nofun⟩
  obtain ⟨hid, hmethod, hparams, hextra⟩ := (hback back).mp hparse
  have hfive : back.id = 5 := by
    have hgiven : Json.int 5 = .int back.id.toNat := hid
    have hvalue : (5 : UInt32).toNat = 5 := rfl
    rw [Json.number.injEq, Number.integer.injEq] at hgiven
    exact UInt32.toNat_inj.mp (by omega)
  obtain ⟨backId, backMethod, backParams, backExtra⟩ := back
  cases hfive
  cases hmethod
  cases hparams
  cases hextra
  exact hparse

end Request

end Appliance
