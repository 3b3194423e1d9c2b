import Appliance.Udp.Arrival

/-!
# The host of a client

What an operating system does for a client that talks to one other end: it resolves names and keeps
sockets. Every operation answers as it likes and moves a state of the host's own.
-/

namespace Appliance

/-- The name that a host has for one of its sockets. -/
abbrev SocketId := Nat

/-- The operations of a host on states of a type; refusals give a reason in words. -/
structure Host (τ : Type) where
  /-- The addresses of a name with a port. -/
  resolve : String → τ → Except String (List SocketAddress) × τ
  /-- A new socket of the family of an address, at any local address. -/
  bind : SocketAddress → τ → Except String SocketId × τ
  /-- Fixes the other end of a socket. -/
  connect : SocketId → SocketAddress → τ → Except String Unit × τ
  send : SocketId → Octets → τ → Except String Unit × τ
  receive : SocketId → Millis → τ → Arrival Unit × τ
  /-- Gives a socket up. -/
  close : SocketId → τ → τ

end Appliance
