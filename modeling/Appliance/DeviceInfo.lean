import Appliance.Json.Decode

/-!
# What a device tells about itself

A device answers a query about itself with an object. The members that are known have fields of
their own, each of which may be missing or null; all others are kept as they are.
-/

namespace Appliance

/-- The wireless access point that a device uses. -/
structure AccessPoint where
  ssid : Option String
  bssid : Option String
  rssi : Option Int64
  deriving DecidableEq, Repr

namespace AccessPoint

/-- How an access point is read. -/
def reader : Json.RecordReader AccessPoint where
  name := "AccessPoint"
  start := ⟨none, none, none⟩
  member key v r :=
    if key = "ssid" then (Json.decode v).map fun ssid => { r with ssid }
    else if key = "bssid" then (Json.decode v).map fun bssid => { r with bssid }
    else if key = "rssi" then (Json.decode v).map fun rssi => { r with rssi }
    else .ok r
  fields :=
    [(false, fun v r => (Json.decode v).map fun ssid => { r with ssid }),
     (false, fun v r => (Json.decode v).map fun bssid => { r with bssid }),
     (false, fun v r => (Json.decode v).map fun rssi => { r with rssi })]

instance : Json.Decodable AccessPoint := ⟨reader.read⟩

instance : Json.Encodable AccessPoint :=
  ⟨fun r => .object
    [("ssid", Json.encode r.ssid), ("bssid", Json.encode r.bssid), ("rssi", Json.encode r.rssi)]⟩

end AccessPoint

/-- The network settings of a device. -/
structure NetworkInterface where
  localIp : Option String
  mask : Option String
  gateway : Option String
  deriving DecidableEq, Repr

namespace NetworkInterface

/-- How network settings are read. -/
def reader : Json.RecordReader NetworkInterface where
  name := "NetworkInterface"
  start := ⟨none, none, none⟩
  member key v r :=
    if key = "localIp" then (Json.decode v).map fun localIp => { r with localIp }
    else if key = "mask" then (Json.decode v).map fun mask => { r with mask }
    else if key = "gw" then (Json.decode v).map fun gateway => { r with gateway }
    else .ok r
  fields :=
    [(false, fun v r => (Json.decode v).map fun localIp => { r with localIp }),
     (false, fun v r => (Json.decode v).map fun mask => { r with mask }),
     (false, fun v r => (Json.decode v).map fun gateway => { r with gateway })]

instance : Json.Decodable NetworkInterface := ⟨reader.read⟩

instance : Json.Encodable NetworkInterface :=
  ⟨fun r => .object
    [("localIp", Json.encode r.localIp), ("mask", Json.encode r.mask),
      ("gw", Json.encode r.gateway)]⟩

end NetworkInterface

/-- What a device tells about itself. The further members stand in ascending order of their keys. -/
structure DeviceInfo where
  model : Option String
  firmwareVersion : Option String
  hardwareVersion : Option String
  macAddress : Option String
  token : Option String
  accessPoint : Option AccessPoint
  networkInterface : Option NetworkInterface
  extra : List (String × Json)
  deriving DecidableEq

namespace DeviceInfo

/-- Nothing told. -/
def empty : DeviceInfo := ⟨none, none, none, none, none, none, none, []⟩

/-- The keys that have fields of their own, in the order of the fields. -/
def knownKeys : List String := ["model", "fw_ver", "hw_ver", "mac", "token", "ap", "netif"]

/-- Sets the field of a key, if it has one. -/
def set (info : DeviceInfo) (key : String) (v : Json) : Except Json.Fault DeviceInfo :=
  if key = "model" then (Json.decode v).map fun model => { info with model }
  else if key = "fw_ver" then (Json.decode v).map fun firmwareVersion => { info with firmwareVersion }
  else if key = "hw_ver" then (Json.decode v).map fun hardwareVersion => { info with hardwareVersion }
  else if key = "mac" then (Json.decode v).map fun macAddress => { info with macAddress }
  else if key = "token" then (Json.decode v).map fun token => { info with token }
  else if key = "ap" then (Json.decode v).map fun accessPoint => { info with accessPoint }
  else if key = "netif" then (Json.decode v).map fun networkInterface => { info with networkInterface }
  else .ok info

instance : Json.Decodable DeviceInfo :=
  ⟨fun v => do
    let members ← Json.asMembers (.record "DeviceInfo") v
    let info ← members.foldlM (fun info (key, v) => info.set key v) empty
    return { info with extra := Json.sortMembers (Json.without knownKeys members) }⟩

/-- The members of what a device tells, as they are written: all known ones, then the further
ones. -/
def members (info : DeviceInfo) : List (String × Json) :=
  [("model", Json.encode info.model), ("fw_ver", Json.encode info.firmwareVersion),
    ("hw_ver", Json.encode info.hardwareVersion), ("mac", Json.encode info.macAddress),
    ("token", Json.encode info.token), ("ap", Json.encode info.accessPoint),
    ("netif", Json.encode info.networkInterface)] ++ info.extra

instance : Json.Encodable DeviceInfo := ⟨fun info => .object info.members⟩

/-- The address that the device has in its network. -/
def localIp (info : DeviceInfo) : Option String := info.networkInterface.bind (·.localIp)

/-- What a device tells, on one line. -/
def text (info : DeviceInfo) : String :=
  info.model.getD "unknown" ++ " v" ++ info.firmwareVersion.getD "?" ++ " (" ++
    info.macAddress.getD "?" ++ ") @ " ++ info.localIp.getD "?"

end DeviceInfo

end Appliance
