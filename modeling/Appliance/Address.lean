import Appliance.Hex
import Appliance.Octets

/-!
# Network addresses

An address of version 4 is a word and one of version 6 a block. Their texts are read strictly:
four decimal numbers without leading zeros, or eight groups of up to four hexadecimal digits, of
which a run of zeros may be left out once and the last two may be written as an address of version
4. Version 6 is written in the form of RFC 5952. With a port an address of version 6 stands in
square brackets and may carry the number of its scope.
-/

namespace Appliance

/-- The address of a host. -/
inductive IpAddress where
  | v4 (octets : Word)
  | v6 (octets : Block)
  deriving DecidableEq, Repr

/-- The address of a socket. -/
inductive SocketAddress where
  | v4 (host : Word) (port : UInt16)
  | v6 (host : Block) (port : UInt16) (scope : UInt32)
  deriving DecidableEq, Repr

namespace SocketAddress

/-- The host of a socket. -/
def ip : SocketAddress → IpAddress
  | .v4 host _ => .v4 host
  | .v6 host _ _ => .v6 host

/-- The port of a socket. -/
def port : SocketAddress → UInt16
  | .v4 _ port => port
  | .v6 _ port _ => port

end SocketAddress

namespace Address

/-! ## Writing -/

/-- An address of version 4. -/
def textV4 (host : Word) : String :=
  ".".intercalate (host.toOctets.map fun x => toString x.toNat)

/-- The eight groups of an address of version 6. -/
def groups (host : Block) : List UInt16 :=
  [host.w0, host.w1, host.w2, host.w3].flatMap fun w => [w.upper, w.lower]

/-- The first longest run of zeros among groups: where it starts and how long it is, in front of the
one that is best so far. The third argument is the index of the first group. -/
def longestZeros : List UInt16 → Nat × Nat → Nat → Nat × Nat
  | [], best, _ => best
  | g :: gs, best, index =>
    let run := ((g :: gs).takeWhile (· == 0)).length
    longestZeros gs (if run > best.2 then (index, run) else best) (index + 1)

/-- Groups with colons between them. -/
def colons (gs : List UInt16) : String := ":".intercalate (gs.map fun g => Hex.ofNat g.toNat)

/-- An address of version 6. -/
def textV6 (host : Block) : String :=
  let gs := groups host
  if host.w0 = ⟨0, 0, 0, 0⟩ ∧ host.w1 = ⟨0, 0, 0, 0⟩ ∧ host.w2 = ⟨0, 0, 0xff, 0xff⟩ then
    "::ffff:" ++ textV4 host.w3
  else
    let (first, count) := longestZeros gs (0, 0) 0
    if count > 1 then colons (gs.take first) ++ "::" ++ colons (gs.drop (first + count))
    else colons gs

/-! ## Reading -/

/-- The value of a digit to a base of at most sixteen. -/
def digit? (base : Nat) (c : Char) : Option Nat :=
  if c.toNat < 128 then
    match Hex.value? (UInt8.ofNat c.toNat) with
    | some v => if v.toNat < base then some v.toNat else none
    | none => none
  else none

/-- The digits to a base that come next, as values, and what follows them. -/
def digits (base : Nat) : List Char → List Nat × List Char
  | [] => ([], [])
  | c :: cs =>
    match digit? base c with
    | some d =>
      let (ds, rest) := digits base cs
      (d :: ds, rest)
    | none => ([], c :: cs)

/-- A number below a limit that comes next, with at most a number of digits, if that is limited, and
perhaps without leading zeros. -/
def number? (base limit : Nat) (most : Option Nat) (leadingZeros : Bool) (cs : List Char) :
    Option (Nat × List Char) :=
  let (ds, rest) := digits base cs
  let n := ds.foldl (fun n d => n * base + d) 0
  if ds.isEmpty then none
  else if most.any (· < ds.length) then none
  else if !leadingZeros && ds.head? == some 0 && ds.length > 1 then none
  else if n < limit then some (n, rest)
  else none

/-- What follows a character that has to come next. -/
def expect (c : Char) : List Char → Option (List Char)
  | [] => none
  | x :: rest => if x = c then some rest else none

/-- An octet of an address of version 4. -/
def octet? (cs : List Char) : Option (UInt8 × List Char) := do
  let (n, rest) ← number? 10 256 (some 3) false cs
  return (UInt8.ofNat n, rest)

/-- An address of version 4 that comes next. -/
def readV4 (cs : List Char) : Option (Word × List Char) := do
  let (a, cs) ← octet? cs
  let (b, cs) ← octet? (← expect '.' cs)
  let (c, cs) ← octet? (← expect '.' cs)
  let (d, cs) ← octet? (← expect '.' cs)
  return (⟨a, b, c, d⟩, cs)

/-- The groups of an address of version 6 that come next, up to a number of them, and whether the
last two of them are written as an address of version 4. Each but the first needs a colon. -/
def readGroups : Nat → Bool → List Char → List UInt16 × Bool × List Char
  | 0, _, cs => ([], false, cs)
  | left + 1, first, cs =>
    let start := if first then some cs else expect ':' cs
    match if left > 0 then start.bind readV4 else none with
    | some (w, rest) => ([w.upper, w.lower], true, rest)
    | none =>
      match start.bind (number? 16 65536 (some 4) true) with
      | some (g, rest) =>
        let (gs, embedded, rest) := readGroups left false rest
        (UInt16.ofNat g :: gs, embedded, rest)
      | none => ([], false, cs)

/-- The address of version 6 of eight groups. -/
def ofGroups : List UInt16 → Option Block
  | [a, b, c, d, e, f, g, h] =>
    some ⟨.ofHalves a b, .ofHalves c d, .ofHalves e f, .ofHalves g h⟩
  | _ => none

/-- An address of version 6 that comes next. -/
def readV6 (cs : List Char) : Option (Block × List Char) :=
  let (head, embedded, rest) := readGroups 8 true cs
  if head.length = 8 then (ofGroups head).map (·, rest)
  else if embedded then none
  else do
    let rest ← expect ':' (← expect ':' rest)
    let (tail, _, rest) := readGroups (7 - head.length) true rest
    let zeros := List.replicate (8 - head.length - tail.length) 0
    return (← ofGroups (head ++ zeros ++ tail), rest)

/-- A port that comes next, after its colon. -/
def readPort (cs : List Char) : Option (UInt16 × List Char) := do
  let (n, rest) ← number? 10 65536 none true (← expect ':' cs)
  return (UInt16.ofNat n, rest)

/-- The number of a scope, after its mark, or zero if none comes next. -/
def readScope (cs : List Char) : UInt32 × List Char :=
  match (expect '%' cs).bind (number? 10 4294967296 none true) with
  | some (n, rest) => (UInt32.ofNat n, rest)
  | none => (0, cs)

/-- The address of a socket of version 4 that comes next. -/
def readSocketV4 (cs : List Char) : Option (SocketAddress × List Char) := do
  let (host, cs) ← readV4 cs
  let (port, cs) ← readPort cs
  return (.v4 host port, cs)

/-- The address of a socket of version 6 that comes next. -/
def readSocketV6 (cs : List Char) : Option (SocketAddress × List Char) := do
  let (host, cs) ← readV6 (← expect '[' cs)
  let (scope, cs) := readScope cs
  let (port, cs) ← readPort (← expect ']' cs)
  return (.v6 host port scope, cs)

/-- What a reader makes of a whole text. -/
def whole {α : Type} (read : List Char → Option (α × List Char)) (s : String) : Option α :=
  match read s.toList with
  | some (a, []) => some a
  | _ => none

end Address

namespace IpAddress

/-- The text of an address. -/
def text : IpAddress → String
  | .v4 host => Address.textV4 host
  | .v6 host => Address.textV6 host

/-- The address that a text is. -/
def parse (s : String) : Option IpAddress :=
  Address.whole
    (fun cs =>
      ((Address.readV4 cs).map fun (host, rest) => (.v4 host, rest)).or
        ((Address.readV6 cs).map fun (host, rest) => (.v6 host, rest))) s

end IpAddress

namespace SocketAddress

/-- The text of an address. -/
def text : SocketAddress → String
  | .v4 host port => Address.textV4 host ++ ":" ++ toString port
  | .v6 host port scope =>
    "[" ++ Address.textV6 host ++ (if scope = 0 then "" else "%" ++ toString scope) ++ "]:" ++
      toString port

/-- The address that a text is. -/
def parse (s : String) : Option SocketAddress :=
  Address.whole (fun cs => (Address.readSocketV4 cs).or (Address.readSocketV6 cs)) s

end SocketAddress

end Appliance
