import Appliance.Frame
import Appliance.Json.Decode

/-!
# Requests

A request has an id, a method and parameters, and may carry further members beside them. On the
wire it is an object whose members stand in a fixed order; a further member named like one of the
three takes its place.

A request is read back from a value or from a text. The value's members come in the order of their
keys and its faults have no position; in a text they come as they are written, and every fault has
a position: that of the octets read when it shows.
-/

namespace Appliance

/-- A request. The further members stand in ascending order of their keys. -/
structure Request where
  id : UInt32
  method : String
  params : Json
  extra : List (String × Json)
  deriving DecidableEq

namespace Request

/-- A request without further members. Parameters that are null become an empty list. -/
def new (id : UInt32) (method : String) (params : Json) : Request :=
  ⟨id, method, if params = .null then .array [] else params, []⟩

/-- A request with further members, which replace those with the same key. -/
def withExtra (r : Request) (members : List (String × Json)) : Request :=
  { r with extra := Json.sortMembers (r.extra ++ members) }

/-- The members of a request's own. -/
def baseMembers (r : Request) : List (String × Json) :=
  [("id", .int r.id.toNat), ("method", .string r.method), ("params", r.params)]

/-- The members of a request as they are written: its own that are not replaced, then the further
ones. -/
def members (r : Request) : List (String × Json) :=
  Json.without (r.extra.map (·.1)) r.baseMembers ++ r.extra

/-- A request as it is written. -/
def toJson (r : Request) : Json := .object r.members

instance : Payload Request := ⟨fun r => .ok r.toJson⟩

/-- A request on one line. -/
def text (r : Request) : String :=
  "Request[" ++ toString r.id ++ "](" ++ r.method ++ ", params=" ++ r.params.text ++ ")"

/-- A request of which some members are read, the further ones latest first. -/
structure Partial where
  id : Option UInt32
  method : Option String
  params : Option Json
  extra : List (String × Json)

/-- Nothing read. -/
def Partial.empty : Partial := ⟨none, none, none, []⟩

/-- The request that has been read, unless a member is missing. -/
def Partial.finish (p : Partial) : Except Json.Fault Request :=
  match p.id, p.method, p.params with
  | none, _, _ => .error (.missingField "id")
  | some _, none, _ => .error (.missingField "method")
  | some _, some _, none => .error (.missingField "params")
  | some id, some method, some params =>
    .ok ⟨id, method, params, Json.sortMembers p.extra.reverse⟩

/-- One more member read. -/
def Partial.add (p : Partial) (key : String) (v : Json) : Except Json.Fault Partial :=
  if key = "id" then (Json.decode v).map fun id => { p with id := some id }
  else if key = "method" then (Json.decode v).map fun method => { p with method := some method }
  else if key = "params" then .ok { p with params := some v }
  else .ok { p with extra := (key, v) :: p.extra }

/-- The request that a value is. -/
def ofJson (v : Json) : Except Json.Fault Request := do
  let members ← Json.asMembers (.record "Request") v
  (← members.foldlM (fun p (k, v) => p.add k v) Partial.empty).finish

/-! ## From a text -/

open Json (Stop Reading Fault)
open Json.Reader

/-- A scalar that has to be of some type, read to its end. Of an array or an object only the opening
bracket is looked at. -/
def scalar {α : Type} (decode : Json → Except Fault α) (input : Octets) : Reading α :=
  let untouched (bracket : UInt8) (rest : Octets) : Reading Json :=
    .ok (if bracket = 0x5b then .array [] else .object [], bracket :: rest)
  match start untouched input with
  | .error e => .error e
  | .ok (v, rest) =>
    match decode v with
    | .error fault => .error (failAt fault rest)
    | .ok a => .ok (a, rest)

/-- What ends the reading of an object: a fault of its text, or a fault that takes the position
after the object's closing brace if that comes next. -/
inductive Break where
  | text (stop : Stop)
  | members (fault : Fault) (rest : Octets)

/-- The members of a request from the key of one of them, behind its quotation mark, to the closing
brace. A field that comes twice is a fault after its key. -/
def readMembers (n : Nat) : Nat → Partial → Octets → Except Break (Partial × Octets)
  | 0, _, input => .error (.text (failOn .eofObject input))
  | turns + 1, p, input =>
    match string input with
    | .error e => .error (.text e)
    | .ok (key, rest) =>
      let twice :=
        (key = "id" ∧ p.id.isSome) ∨ (key = "method" ∧ p.method.isSome) ∨
          (key = "params" ∧ p.params.isSome)
      if twice then .error (.members (.duplicateField key) rest)
      else
        match colon rest with
        | .error e => .error (.text e)
        | .ok rest =>
          let next : Reading Partial :=
            if key = "id" then
              (scalar Json.decode rest).map fun (id, rest) => ({ p with id := some id }, rest)
            else if key = "method" then
              (scalar Json.decode rest).map fun (m, rest) => ({ p with method := some m }, rest)
            else
              (value n (Json.maxDepth - 1) rest).map fun (v, rest) =>
                (if key = "params" then { p with params := some v }
                 else { p with extra := (key, v) :: p.extra }, rest)
          match next with
          | .error e => .error (.text e)
          | .ok (p, rest) =>
            match skipBlank rest with
            | [] => .error (.text (failOn .eofObject []))
            | x :: rest =>
              if x = 0x7d then .ok (p, x :: rest)
              else if x = 0x2c then
                match skipBlank rest with
                | [] => .error (.text (failOn .eofValue []))
                | y :: rest =>
                  if y = 0x22 then readMembers n turns p rest
                  else if y = 0x7d then .error (.text (failOn .trailingComma (y :: rest)))
                  else .error (.text (failOn .keyNotString (y :: rest)))
              else .error (.text (failOn .expectedCommaOrBrace (x :: rest)))

/-- The octets after the closing brace of an object, if that comes next. -/
def skipBrace (rest : Octets) : Octets :=
  match skipBlank rest with
  | [] => []
  | x :: rest => if x = 0x7d then rest else x :: rest

/-- A request between blanks. -/
def read (n : Nat) (input : Octets) : Reading Request :=
  let members : Except Break (Partial × Octets) :=
    match skipBlank input with
    | 0x7b :: rest =>
      match skipBlank rest with
      | [] => .error (.text (failOn .eofObject []))
      | x :: rest =>
        if x = 0x7d then .ok (Partial.empty, x :: rest)
        else if x = 0x22 then readMembers n n Partial.empty rest
        else .error (.text (failOn .keyNotString (x :: rest)))
    | other =>
      match scalar (Json.asMembers (.record "Request")) other with
      | .error e => .error (.text e)
      | .ok (_, rest) => .ok (Partial.empty, rest)
  match members with
  | .error (.text stop) => .error stop
  | .error (.members fault rest) => .error (failAt fault (skipBrace rest))
  | .ok (p, rest) =>
    match p.finish with
    | .error fault => .error (failAt fault (skipBrace rest))
    | .ok r => .ok (r, skipBrace rest)

/-- The request that a text is. -/
def parse (text : Octets) : Except Json.Error Request :=
  match read text.length text with
  | .error stop => .error (stop.toError text)
  | .ok (r, rest) =>
    match finish rest with
    | .error stop => .error (stop.toError text)
    | .ok () => .ok r

end Request

end Appliance
