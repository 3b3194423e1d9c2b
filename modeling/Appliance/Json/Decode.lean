import Appliance.Json.Fault

/-!
# Typed values from JSON

Reading a JSON value as a value of a known type. Integers fit their width or are refused, doubles
take integers too, an optional value may be null. A record is read from the members of an object in
their order, whose unknown keys it ignores, or from an array of its fields in their order.
-/

namespace Appliance.Json

/-- What can be read from a JSON value. -/
class Decodable (α : Type) where
  decode : Json → Except Fault α

/-- What can be written as a JSON value. -/
class Encodable (α : Type) where
  encode : α → Json

export Decodable (decode)
export Encodable (encode)

/-- The fault of a value that is not what is expected. -/
def mismatch {α : Type} (v : Json) (expected : Expected) : Except Fault α :=
  .error (.invalidType (Found.ofJson v) expected)

/-- A string. -/
def asString : Json → Except Fault String
  | .string s => .ok s
  | v => mismatch v .string

/-- A boolean. -/
def asBool : Json → Except Fault Bool
  | .bool b => .ok b
  | v => mismatch v .boolean

/-- A natural number of a width in bits. -/
def asUnsigned (bits : Nat) : Json → Except Fault Nat
  | .number (.integer n) =>
    if 0 ≤ n ∧ n < Nat.pow 2 bits then .ok n.toNat
    else .error (.invalidValue (.number (.integer n)) (.unsigned bits))
  | v => mismatch v (.unsigned bits)

/-- A signed integer of a width in bits. -/
def asSigned (bits : Nat) : Json → Except Fault Int
  | .number (.integer n) =>
    if -(Nat.pow 2 (bits - 1) : Nat) ≤ n ∧ n < Nat.pow 2 (bits - 1) then .ok n
    else .error (.invalidValue (.number (.integer n)) (.signed bits))
  | v => mismatch v (.signed bits)

/-- A double, or the double nearest to an integer. -/
def asDouble : Json → Except Fault Double
  | .number (.integer n) => .ok (Double.ofInt n)
  | .number (.float x) => .ok x
  | v => mismatch v .double

/-- The items of an array. -/
def asItems (expected : Expected) : Json → Except Fault (List Json)
  | .array items => .ok items
  | v => mismatch v expected

/-- The members of an object. -/
def asMembers (expected : Expected) : Json → Except Fault (List (String × Json))
  | .object members => .ok members
  | v => mismatch v expected

instance : Decodable Json := ⟨.ok⟩
instance : Decodable String := ⟨asString⟩
instance : Decodable Bool := ⟨asBool⟩
instance : Decodable UInt8 := ⟨fun v => (asUnsigned 8 v).map UInt8.ofNat⟩
instance : Decodable UInt32 := ⟨fun v => (asUnsigned 32 v).map UInt32.ofNat⟩
instance : Decodable Int64 := ⟨fun v => (asSigned 64 v).map Int64.ofInt⟩
instance : Decodable Double := ⟨asDouble⟩

instance {α : Type} [Decodable α] : Decodable (Option α) :=
  ⟨fun
    | .null => .ok none
    | v => (decode v).map some⟩

instance {α : Type} [Decodable α] : Decodable (List α) :=
  ⟨fun v => do (← asItems .sequence v).mapM decode⟩

/-- A pair is read from an array of two items. -/
instance {α β : Type} [Decodable α] [Decodable β] : Decodable (α × β) :=
  ⟨fun v => do
    match ← asItems (.tuple 2) v with
    | [] => .error (.invalidLength 0 (.tuple 2))
    | x :: rest =>
      let a ← decode x
      match rest with
      | [] => .error (.invalidLength 1 (.tuple 2))
      | y :: rest =>
        let b ← decode y
        if rest.isEmpty then .ok (a, b) else .error (.invalidLength (rest.length + 2) .fewerItems)⟩

/-- Values by their keys, in the order of the object. -/
structure Mapping (α : Type) where
  entries : List (String × α)

instance {α : Type} [Decodable α] : Decodable (Mapping α) :=
  ⟨fun v => do
    let entries ← (← asMembers .map v).mapM fun (k, x) => return (k, ← decode x)
    return ⟨entries⟩⟩

instance : Encodable Json := ⟨id⟩
instance : Encodable String := ⟨.string⟩
instance : Encodable Bool := ⟨.bool⟩
instance : Encodable UInt8 := ⟨fun n => .int n.toNat⟩
instance : Encodable UInt32 := ⟨fun n => .int n.toNat⟩
instance : Encodable Int64 := ⟨fun n => .int n.toInt⟩
instance : Encodable Double := ⟨fun x => .number (.float x)⟩

instance {α : Type} [Encodable α] : Encodable (Option α) :=
  ⟨fun
    | none => .null
    | some a => encode a⟩

instance {α : Type} [Encodable α] : Encodable (List α) := ⟨fun xs => .array (xs.map encode)⟩

instance {α β : Type} [Encodable α] [Encodable β] : Encodable (α × β) :=
  ⟨fun (a, b) => .array [encode a, encode b]⟩

instance {α : Type} [Encodable α] : Encodable (Mapping α) :=
  ⟨fun m => .object (m.entries.map fun (k, a) => (k, encode a))⟩

/-- How a record is read: its name, what a member adds to it, and how its fields, in order, are set
from the items of an array. A field that may be missing at the end of an array has a default. -/
structure RecordReader (ρ : Type) where
  name : String
  /-- The record with no field set. -/
  start : ρ
  /-- Sets the field that a key names, if there is one. -/
  member : String → Json → ρ → Except Fault ρ
  /-- The setters of the fields, and whether each may be missing. -/
  fields : List (Bool × (Json → ρ → Except Fault ρ))

/-- Sets the fields of a record from the items of an array, of which some are read already. -/
def RecordReader.ofItems {ρ : Type} (r : RecordReader ρ) (length : Nat) :
    Nat → List (Bool × (Json → ρ → Except Fault ρ)) → List Json → ρ → Except Fault ρ
  | _, [], [], record => .ok record
  | _, [], _ :: _, _ => .error (.invalidLength length .fewerItems)
  | n, (optional, _) :: fields, [], record =>
    if optional then r.ofItems length (n + 1) fields [] record
    else .error (.invalidLength n (.recordOf r.name r.fields.length))
  | n, (_, set) :: fields, x :: items, record => do
    r.ofItems length (n + 1) fields items (← set x record)

/-- A record from the members of an object or the items of an array. -/
def RecordReader.read {ρ : Type} (r : RecordReader ρ) : Json → Except Fault ρ
  | .object members => members.foldlM (fun record (k, v) => r.member k v record) r.start
  | .array items => r.ofItems items.length 0 r.fields items r.start
  | v => mismatch v (.record r.name)

end Appliance.Json
