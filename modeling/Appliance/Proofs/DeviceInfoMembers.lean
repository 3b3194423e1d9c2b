import Appliance.DeviceInfo
import Appliance.Proofs.RecordReading
import Mathlib.Tactic.SplitIfs

/-!
# What a device tells, member by member

The members that a device tells about itself are parted by their keys: seven keys have fields of their
own, which hold nothing where the key is missing or null, and all other members are kept as they are. So
nothing that is told is lost, whatever a device tells beyond what is known, and what was told can be
written and read again.

Values that a reader produces are sorted, and so is what is written once it is made such a value, while
in the order of writing the known members stand first. Both orders are read alike, because the fields are
read by their keys.
-/

namespace Appliance

open Json (Ascending Distinct Fills ReadAs ReadBack ReadsField)

/-! ## Records within -/

section

open Json (readBack_string readBack_int64 map_eq_ok_iff bind_eq_ok_iff)

/-- What is told of an access point is read back. -/
theorem AccessPoint.readBack : ReadBack AccessPoint where
  ne_null r := by simp [Json.encode]
  written r := by
    change reader.read (.object [("ssid", Json.encode r.ssid), ("bssid", Json.encode r.bssid),
      ("rssi", Json.encode r.rssi)]) = .ok r
    simp [Json.RecordReader.read, reader, bind_eq_ok_iff, map_eq_ok_iff,
      readBack_string.written_option, readBack_int64.written_option]
  sorted r := by
    change reader.read (.object [("bssid", (Json.encode r.bssid).sorted),
      ("rssi", (Json.encode r.rssi).sorted), ("ssid", (Json.encode r.ssid).sorted)]) = .ok r
    simp [Json.RecordReader.read, reader, bind_eq_ok_iff, map_eq_ok_iff,
      readBack_string.sorted_option, readBack_int64.sorted_option]

/-- What is told of network settings is read back. -/
theorem NetworkInterface.readBack : ReadBack NetworkInterface where
  ne_null r := by simp [Json.encode]
  written r := by
    change reader.read (.object [("localIp", Json.encode r.localIp), ("mask", Json.encode r.mask),
      ("gw", Json.encode r.gateway)]) = .ok r
    simp [Json.RecordReader.read, reader, bind_eq_ok_iff, map_eq_ok_iff,
      readBack_string.written_option]
  sorted r := by
    change reader.read (.object [("gw", (Json.encode r.gateway).sorted),
      ("localIp", (Json.encode r.localIp).sorted), ("mask", (Json.encode r.mask).sorted)]) = .ok r
    simp [Json.RecordReader.read, reader, bind_eq_ok_iff, map_eq_ok_iff,
      readBack_string.sorted_option]

end

namespace DeviceInfo

attribute [ext] DeviceInfo

/-! ## What members tell -/

/-- The fields after some members, if each of them has been given a value by its key or none. -/
structure Gathers (given : String → Option Json) (before after : DeviceInfo) : Prop where
  model : Fills ReadAs (given "model") before.model after.model
  firmwareVersion : Fills ReadAs (given "fw_ver") before.firmwareVersion after.firmwareVersion
  hardwareVersion : Fills ReadAs (given "hw_ver") before.hardwareVersion after.hardwareVersion
  macAddress : Fills ReadAs (given "mac") before.macAddress after.macAddress
  token : Fills ReadAs (given "token") before.token after.token
  accessPoint : Fills ReadAs (given "ap") before.accessPoint after.accessPoint
  networkInterface : Fills ReadAs (given "netif") before.networkInterface after.networkInterface

/-- What is gathered is decided but for the further members. -/
theorem Gathers.unique {given : String → Option Json} {before after after' : DeviceInfo}
    (h : Gathers given before after) (h' : Gathers given before after')
    (hextra : after.extra = after'.extra) : after = after' :=
  DeviceInfo.ext (h.model.unique h'.model) (h.firmwareVersion.unique h'.firmwareVersion)
    (h.hardwareVersion.unique h'.hardwareVersion) (h.macAddress.unique h'.macAddress)
    (h.token.unique h'.token) (h.accessPoint.unique h'.accessPoint)
    (h.networkInterface.unique h'.networkInterface) hextra

/-- How a member is taken up into what is told. -/
def member (key : String) (v : Json) (info : DeviceInfo) : Except Json.Fault DeviceInfo :=
  info.set key v

/-- One member sets the field of its key. -/
theorem gathers_of_member {key : String} {v : Json} {info info' : DeviceInfo}
    (h : member key v info = .ok info') :
    Gathers (fun k => if k = key then some v else none) info info' := by
  unfold member set at h
  constructor <;> grind [Json.map_eq_ok_iff, Fills, ReadAs]

/-- A member is taken up wherever the value of its key can fill the field. -/
theorem exists_member_eq_ok {given : String → Option Json} {before after : DeviceInfo}
    (h : Gathers given before after) {key : String} {v : Json} (hkey : given key = some v)
    (info : DeviceInfo) : ∃ info', member key v info = .ok info' := by
  unfold member set
  split_ifs with hmodel hfirmware hhardware hmac htoken haccess hnetwork
  · exact h.model.exists_map (hmodel ▸ hkey) _
  · exact h.firmwareVersion.exists_map (hfirmware ▸ hkey) _
  · exact h.hardwareVersion.exists_map (hhardware ▸ hkey) _
  · exact h.macAddress.exists_map (hmac ▸ hkey) _
  · exact h.token.exists_map (htoken ▸ hkey) _
  · exact h.accessPoint.exists_map (haccess ▸ hkey) _
  · exact h.networkInterface.exists_map (hnetwork ▸ hkey) _
  · exact ⟨info, rfl⟩

/-- Members one after another set the fields of their keys. -/
theorem gathers_of_takeMembers {members : List (String × Json)} (hkeys : Distinct members)
    {info info' : DeviceInfo}
    (h : Json.takeMembers member members info = .ok info') :
    Gathers (fun key => members.lookup key) info info' where
  model := ReadsField.fills (fun _ _ _ _ hmember => (gathers_of_member hmember).model) hkeys h
  firmwareVersion :=
    ReadsField.fills (fun _ _ _ _ hmember => (gathers_of_member hmember).firmwareVersion) hkeys h
  hardwareVersion :=
    ReadsField.fills (fun _ _ _ _ hmember => (gathers_of_member hmember).hardwareVersion) hkeys h
  macAddress := ReadsField.fills (fun _ _ _ _ hmember => (gathers_of_member hmember).macAddress) hkeys h
  token := ReadsField.fills (fun _ _ _ _ hmember => (gathers_of_member hmember).token) hkeys h
  accessPoint := ReadsField.fills (fun _ _ _ _ hmember => (gathers_of_member hmember).accessPoint) hkeys h
  networkInterface :=
    ReadsField.fills (fun _ _ _ _ hmember => (gathers_of_member hmember).networkInterface) hkeys h

/-- What a device tells by some members: a field is read from the value of its key, if there is one, and
the members whose keys have no field are the further ones, in ascending order of their keys. -/
structure Tells (members : List (String × Json)) (info : DeviceInfo) : Prop where
  fields : Gathers (fun key => members.lookup key) empty info
  extra : info.extra = Json.sortMembers (Json.without knownKeys members)

/-- What is told is what the known members say, and the others as they are. -/
theorem decode_object (members : List (String × Json)) :
    (Json.decode (.object members) : Except Json.Fault DeviceInfo) =
      (Json.takeMembers member members empty).map fun info =>
        { info with extra := Json.sortMembers (Json.without knownKeys members) } := by
  change (Json.takeMembers member members empty >>= _) = _
  cases Json.takeMembers member members empty <;> rfl

/-- Members that are taken up, with the others as they are, are what a device tells. -/
theorem tells_of_takeMembers {members : List (String × Json)} (hkeys : Distinct members)
    {told : DeviceInfo}
    (h : Json.takeMembers member members empty = .ok told) :
    Tells members { told with extra := Json.sortMembers (Json.without knownKeys members) } :=
  have hfields := gathers_of_takeMembers hkeys h
  ⟨⟨hfields.model, hfields.firmwareVersion, hfields.hardwareVersion, hfields.macAddress,
    hfields.token, hfields.accessPoint, hfields.networkInterface⟩, rfl⟩

/-- Members are read as what a device tells by them. -/
theorem decode_object_eq_ok_iff {members : List (String × Json)} (hkeys : Distinct members)
    (info : DeviceInfo) : Json.decode (.object members) = .ok info ↔ Tells members info := by
  rw [decode_object, Json.map_eq_ok_iff]
  constructor
  · rintro ⟨told, htold, rfl⟩
    exact tells_of_takeMembers hkeys htold
  · intro h
    obtain ⟨told, htold⟩ := Json.exists_takeMembers_eq_ok
      (fun m hm => exists_member_eq_ok h.fields ((hkeys.mem_iff_lookup m).mp hm)) empty
    have hsame := tells_of_takeMembers hkeys htold
    exact ⟨told, htold, hsame.fields.unique h.fields (hsame.extra.trans h.extra.symm)⟩

/-! ## What is written -/

/-- Without the known keys only the further members are left of what is written. -/
theorem without_members {info : DeviceInfo}
    (hknown : ∀ key ∈ knownKeys, info.extra.lookup key = none) :
    Json.without knownKeys info.members = info.extra := by
  have hsplit : Json.without knownKeys info.members = [] ++ Json.without knownKeys info.extra :=
    List.filter_append _ info.extra
  rw [hsplit, List.nil_append, Json.without_eq_self hknown]

section

variable {info : DeviceInfo} (hextra : (Json.object info.extra).Sorted)
  (hknown : ∀ key ∈ knownKeys, info.extra.lookup key = none)

include hextra hknown

/-- No key comes twice in what is written. -/
theorem distinct_members : Distinct info.members := by
  have hkeys : info.members.map (·.1) = knownKeys ++ info.extra.map (·.1) := rfl
  unfold Distinct
  rw [hkeys, List.nodup_append]
  refine ⟨by decide, hextra.1.distinct, ?_⟩
  rintro key hkey _ hkey' rfl
  exact (Json.lookup_eq_none_iff key info.extra).mp (hknown key hkey) hkey'

/-- What is written tells what it was written of. -/
theorem tells_members : Tells info.members info where
  fields := ⟨Json.readBack_string.written_option _, Json.readBack_string.written_option _,
    Json.readBack_string.written_option _, Json.readBack_string.written_option _,
    Json.readBack_string.written_option _, AccessPoint.readBack.written_option _,
    NetworkInterface.readBack.written_option _⟩
  extra := by
    rw [without_members hknown, Json.sortMembers_of_ascending _ hextra.1]

/-- What is written tells the same when it is sorted. -/
theorem tells_sorted_members : Tells (Json.sortMembers (Json.sortedMembers info.members)) info := by
  have hkeys := distinct_members hextra hknown
  have hfield {α : Type} [Json.Decodable α] [Json.Encodable α] (h : ReadBack α) {key : String}
      {a : Option α} (hkey : info.members.lookup key = some (Json.encode a)) :
      Fills ReadAs ((Json.sortMembers (Json.sortedMembers info.members)).lookup key) none a := by
    rw [hkeys.lookup_sorted, hkey]
    exact h.sorted_option a
  refine ⟨⟨hfield Json.readBack_string rfl, hfield Json.readBack_string rfl,
    hfield Json.readBack_string rfl, hfield Json.readBack_string rfl,
    hfield Json.readBack_string rfl, hfield AccessPoint.readBack rfl,
    hfield NetworkInterface.readBack rfl⟩, ?_⟩
  have hsorted := Json.ascending_sortMembers (Json.sortedMembers info.members)
  have hkept : Ascending
      (Json.without knownKeys (Json.sortMembers (Json.sortedMembers info.members))) :=
    List.Pairwise.filter _ hsorted
  rw [Json.sortMembers_of_ascending _ hkept]
  refine hextra.1.eq_of_lookup_eq hkept fun key => ?_
  -- Only the further members are left, and their values were sorted already.
  calc info.extra.lookup key
      = (info.extra.lookup key).map Json.sorted := by
        rw [← Json.lookup_sortedMembers, Json.sortedMembers_eq_self _ hextra.2]
    _ = (if key ∈ knownKeys then none else info.members.lookup key).map Json.sorted := by
        rw [← Json.lookup_without, without_members hknown]
    _ = (Json.without knownKeys
          (Json.sortMembers (Json.sortedMembers info.members))).lookup key := by
        rw [Json.lookup_without, hkeys.lookup_sorted]
        split <;> rfl

/-- What is written is read back, as it is written and sorted. -/
theorem convert_encode : convert (Json.encode info) = .ok info ∧
    convert (Json.encode info).sorted = .ok info := by
  rw [convert_eq_ok_iff, convert_eq_ok_iff]
  have hkeys := distinct_members hextra hknown
  have hsorted := (Json.ascending_sortMembers (Json.sortedMembers info.members)).distinct
  exact ⟨(decode_object_eq_ok_iff hkeys info).mpr (tells_members hextra hknown),
    (decode_object_eq_ok_iff hsorted info).mpr (tells_sorted_members hextra hknown)⟩

end

/-! ## What is read -/

/-- Some members tell nothing under a key: it is missing, or null. -/
def Untold (members : List (String × Json)) (key : String) : Prop :=
  members.lookup key = none ∨ members.lookup key = some .null

/-- The fields that hold nothing are those whose keys are told nothing. -/
structure AbsentAsUntold (members : List (String × Json)) (info : DeviceInfo) : Prop where
  model : info.model = none ↔ Untold members "model"
  firmwareVersion : info.firmwareVersion = none ↔ Untold members "fw_ver"
  hardwareVersion : info.hardwareVersion = none ↔ Untold members "hw_ver"
  macAddress : info.macAddress = none ↔ Untold members "mac"
  token : info.token = none ↔ Untold members "token"
  accessPoint : info.accessPoint = none ↔ Untold members "ap"
  networkInterface : info.networkInterface = none ↔ Untold members "netif"

/-- What members tell holds nothing exactly where they tell nothing. -/
theorem Tells.absentAsUntold {members : List (String × Json)} {info : DeviceInfo}
    (h : Tells members info) : AbsentAsUntold members info where
  model := h.fields.model.eq_none_iff
  firmwareVersion := h.fields.firmwareVersion.eq_none_iff
  hardwareVersion := h.fields.hardwareVersion.eq_none_iff
  macAddress := h.fields.macAddress.eq_none_iff
  token := h.fields.token.eq_none_iff
  accessPoint := h.fields.accessPoint.eq_none_iff
  networkInterface := h.fields.networkInterface.eq_none_iff

/-- Without some members an object is sorted if it was. -/
theorem sorted_object_without {members : List (String × Json)} (h : (Json.object members).Sorted)
    (keys : List String) : (Json.object (Json.without keys members)).Sorted :=
  ⟨List.Pairwise.filter _ h.1, Json.sortedMembers_without keys h.2⟩

/-- A sorted value that is read is an object that tells what is read. -/
theorem exists_members_of_convert {v : Json} {info : DeviceInfo} (hv : v.Sorted)
    (h : convert v = .ok info) :
    ∃ members, v = .object members ∧ (Json.object members).Sorted ∧ Tells members info := by
  rw [convert_eq_ok_iff] at h
  cases v with
  | object members => exact ⟨members, rfl, hv, (decode_object_eq_ok_iff hv.1.distinct info).mp h⟩
  | null | bool _ | number _ | string _ | array _ => cases h

/-- A sorted value, as readers produce it, that is read as what a device tells is an object. Its members
without a known key are kept just as they are, and a known field is read from the value of its key, so
that it holds nothing exactly where the key is missing or null. What a device tells is read back from what
is written of it, in the order of writing and sorted, if its further members are sorted and none has a
known key; that is so of everything that was read from such a value. -/
theorem read_and_written_by_keys :
    (∀ (v : Json) (info : DeviceInfo), v.Sorted → convert v = .ok info →
      ∃ members, v = .object members ∧ info.extra = Json.without knownKeys members ∧
        Tells members info ∧ AbsentAsUntold members info) ∧
      (∀ info : DeviceInfo, (Json.object info.extra).Sorted →
        (∀ key ∈ knownKeys, info.extra.lookup key = none) →
          convert (Json.encode info) = .ok info ∧
            convert (Json.encode info).sorted = .ok info) ∧
      ∀ (v : Json) (info : DeviceInfo), v.Sorted → convert v = .ok info →
        convert (Json.encode info) = .ok info ∧
          convert (Json.encode info).sorted = .ok info := by
  have hkept {members : List (String × Json)} {info : DeviceInfo}
      (hsorted : (Json.object members).Sorted) (htells : Tells members info) :
      info.extra = Json.without knownKeys members := by
    rw [htells.extra, Json.sortMembers_of_ascending _ (sorted_object_without hsorted knownKeys).1]
  refine ⟨?_, fun info => convert_encode, ?_⟩
  · intro v info hv h
    obtain ⟨members, rfl, hsorted, htells⟩ := exists_members_of_convert hv h
    exact ⟨members, rfl, hkept hsorted htells, htells, htells.absentAsUntold⟩
  · intro v info hv h
    obtain ⟨members, rfl, hsorted, htells⟩ := exists_members_of_convert hv h
    have hextra := hkept hsorted htells
    refine convert_encode ?_ ?_
    · rw [hextra]
      exact sorted_object_without hsorted knownKeys
    · intro key hkey
      rw [hextra, Json.lookup_without, if_pos hkey]

/-- A fan that tells a null, a record within and a member that is not known. -/
theorem read_and_written_by_keys_of_fan :
    let v := Json.object [("ap", .null), ("life", .int 1234), ("model", .string "zhimi.fan.v2"),
      ("netif", .object [("localIp", .string "192.168.1.50")])]
    let info : DeviceInfo := ⟨some "zhimi.fan.v2", none, none, none, none, none,
      some ⟨some "192.168.1.50", none, none⟩, [("life", .int 1234)]⟩
    v.Sorted ∧ convert v = .ok info ∧ (Json.object info.extra).Sorted ∧
      (∀ key ∈ knownKeys, info.extra.lookup key = none) ∧
      (∃ members, v = .object members ∧ info.extra = Json.without knownKeys members ∧
        Tells members info ∧ AbsentAsUntold members info) ∧
      convert (Json.encode info) = .ok info ∧ convert (Json.encode info).sorted = .ok info := by
  intro v info
  have hv : v.Sorted := by
    refine ⟨?_, trivial, trivial, trivial, ⟨?_, trivial, trivial⟩, trivial⟩
    · unfold Ascending
      decide
    · unfold Ascending
      decide
  have hread : convert v = .ok info := rfl
  have hextra : (Json.object info.extra).Sorted := ⟨List.pairwise_singleton _ _, trivial, trivial⟩
  have hknown : ∀ key ∈ knownKeys, info.extra.lookup key = none := by decide
  obtain ⟨htold, hback, -⟩ := read_and_written_by_keys
  exact ⟨hv, hread, hextra, hknown, htold v info hv hread, hback info hextra hknown⟩

end DeviceInfo

end Appliance
