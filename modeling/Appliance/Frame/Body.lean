import Appliance.Json.Reader

/-!
# Frame bodies

A deciphered body is a JSON text. Some firmwares put a zero octet and more after it, and some write
a second comma in front of one member; a body that cannot be read as it stands is read again with
both taken back. The error of a body that cannot be read at all is that of the first reading.
-/

namespace Appliance.Body

/-- The octets in front of which a comma may be doubled, with both commas. -/
def doubledComma : Octets := Utf8.ofString ",,\"otu_stat\""

/-- A text without the first of two commas where they stand doubled first, behind octets already
seen in reverse. -/
def dropComma : Octets → Octets → Octets
  | done, [] => done.reverse
  | done, x :: rest =>
    if doubledComma.isPrefixOf (x :: rest) then done.reverse ++ rest else dropComma (x :: done) rest

/-- A body up to its first zero octet and without the comma that is doubled first. -/
def repair (plain : Octets) : Octets := dropComma [] (plain.takeWhile (· != 0))

/-- The value of a body, and whether the body had to be repaired. -/
def read (plain : Octets) : Except Json.Error (Json × Bool) :=
  match Json.parse plain with
  | .ok v => .ok (v, false)
  | .error e =>
    match Json.parse (repair plain) with
    | .ok v => .ok (v, true)
    | .error _ => .error e

/-- The value of a body. -/
def parse (plain : Octets) : Except Json.Error Json := (read plain).map (·.1)

end Appliance.Body
