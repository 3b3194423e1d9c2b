import Appliance.Address

/-!
# Settings

How a client talks to a device and how it looks for devices. Times are in milliseconds.
-/

namespace Appliance

/-- A time in milliseconds. -/
abbrev Millis := Nat

/-- The port that devices listen on. -/
def defaultPort : UInt16 := 54321

/-- How long a client waits for a reply, unless told otherwise. -/
def defaultTimeout : Millis := 5000

/-- How long a scan waits for answers, unless told otherwise. -/
def defaultDiscoveryTimeout : Millis := 5000

/-- How often a request is made again, unless told otherwise. -/
def defaultRetryCount : Nat := 3

/-- How often a handshake is tried, unless told otherwise. -/
def defaultHandshakeAttempts : Nat := 3

/-- How a client talks to a device. -/
structure DeviceConfig where
  port : UInt16
  /-- How long a reply is waited for. -/
  timeout : Millis
  /-- How often a request is made again after its first attempt. -/
  retryCount : Nat
  /-- How often a handshake is tried; none counts as one. -/
  handshakeAttempts : Nat
  /-- A session is kept from call to call, instead of a handshake before each. -/
  lazyDiscover : Bool
  deriving DecidableEq, Repr

namespace DeviceConfig

/-- The settings of a client that is told nothing. -/
def default : DeviceConfig :=
  ⟨defaultPort, defaultTimeout, defaultRetryCount, defaultHandshakeAttempts, true⟩

/-- The settings with another port. -/
def withPort (c : DeviceConfig) (port : UInt16) : DeviceConfig := { c with port }

/-- The settings with another waiting time. -/
def withTimeout (c : DeviceConfig) (timeout : Millis) : DeviceConfig := { c with timeout }

/-- The settings with another number of retries. -/
def withRetryCount (c : DeviceConfig) (retryCount : Nat) : DeviceConfig := { c with retryCount }

/-- The settings with another number of handshakes, at least one. -/
def withHandshakeAttempts (c : DeviceConfig) (attempts : Nat) : DeviceConfig :=
  { c with handshakeAttempts := max attempts 1 }

/-- The settings that keep a session, or do not. -/
def withLazyDiscover (c : DeviceConfig) (lazyDiscover : Bool) : DeviceConfig :=
  { c with lazyDiscover }

end DeviceConfig

/-- How a client looks for devices. -/
structure DiscoveryConfig where
  /-- Where handshakes for everyone are sent. -/
  broadcastAddress : SocketAddress
  /-- How long answers are waited for. -/
  timeout : Millis
  deriving DecidableEq, Repr

namespace DiscoveryConfig

/-- The settings of a client that is told nothing: everyone on the segment. -/
def default : DiscoveryConfig := ⟨.v4 ⟨255, 255, 255, 255⟩ defaultPort, defaultDiscoveryTimeout⟩

/-- The settings with another target. -/
def withBroadcastAddress (c : DiscoveryConfig) (broadcastAddress : SocketAddress) :
    DiscoveryConfig := { c with broadcastAddress }

/-- The settings with another waiting time. -/
def withTimeout (c : DiscoveryConfig) (timeout : Millis) : DiscoveryConfig := { c with timeout }

end DiscoveryConfig

end Appliance
