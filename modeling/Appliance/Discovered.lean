import Appliance.Address
import Appliance.Frame.Header

/-!
# Devices that answer

A device that answers a handshake is known by the address that its answer came from and by what the
header of the answer says. A set of such devices has at most one for each host: the first that
answered.
-/

namespace Appliance

/-- A device that answered a handshake. -/
structure Discovered where
  address : SocketAddress
  deviceId : UInt32
  timestamp : UInt32
  /-- The checksum of the answer: a fingerprint, or the token of a device that is not set up. -/
  token : Block
  deriving DecidableEq, Repr

namespace Discovered

/-- The device whose answer with a header came from an address. -/
def ofHeader (address : SocketAddress) (h : Header) : Discovered :=
  ⟨address, h.deviceId, h.timestamp, h.checksum⟩

/-- The host of a device. -/
def ip (d : Discovered) : IpAddress := d.address.ip

/-- The device shows its token: neither only zeros nor only ones. -/
def revealsToken (d : Discovered) : Bool := d.token != Block.fill 0 && d.token != Block.fill 0xff

/-- The octets that may be the token, as hexadecimal digits. -/
def tokenHex (d : Discovered) : String := Hex.encode d.token.toOctets

/-- A device on one line. -/
def text (d : Discovered) : String :=
  d.ip.text ++ " (ID: " ++ Hex.encode (Word.ofUInt32 d.deviceId).toOctets ++ ") - token: " ++ d.tokenHex

end Discovered

/-- Devices that answered, the first one of each host, in the order of their answers, beside the hosts
that were seen. Of the hosts only which they are counts, not their order. -/
structure DiscoverySet where
  hosts : List IpAddress
  devices : List Discovered
  deriving DecidableEq, Repr

namespace DiscoverySet

/-- No device. -/
def empty : DiscoverySet := ⟨[], []⟩

/-- A device of a host is in the set. -/
def contains (s : DiscoverySet) (ip : IpAddress) : Bool := s.hosts.contains ip

/-- The set with a device, unless its host was seen, and whether it was added. -/
def insert (s : DiscoverySet) (d : Discovered) : Bool × DiscoverySet :=
  if s.contains d.ip then (false, s) else (true, ⟨d.ip :: s.hosts, s.devices ++ [d]⟩)

/-- The number of devices. -/
def size (s : DiscoverySet) : Nat := s.devices.length

/-- There is no device. -/
def isEmpty (s : DiscoverySet) : Bool := s.devices.isEmpty

/-- The devices in the order of their answers. -/
def toList (s : DiscoverySet) : List Discovered := s.devices

end DiscoverySet

end Appliance
