import Appliance.Json.Decode
import Appliance.ProtocolError

/-!
# Responses

A response carries the id of its request, if it is an object that has one, and a result or an
error. An error is an object with a code and a message, an array of the two, or a message alone.
Where there is neither, the whole body is the result.
-/

namespace Appliance

/-- The error that a device reports. -/
structure ErrorReport where
  code : Int64
  message : String
  deriving DecidableEq, Repr

namespace ErrorReport

/-- Zero and nothing, where a report has no code or no message. -/
def empty : ErrorReport := ⟨0, ""⟩

/-- How a report is read. -/
def reader : Json.RecordReader ErrorReport where
  name := "DeviceErrorObject"
  start := empty
  member key v r :=
    if key = "code" then (Json.decode v).map fun code => { r with code }
    else if key = "message" then (Json.decode v).map fun message => { r with message }
    else .ok r
  fields :=
    [(true, fun v r => (Json.decode v).map fun code => { r with code }),
     (true, fun v r => (Json.decode v).map fun message => { r with message })]

instance : Json.Decodable ErrorReport := ⟨reader.read⟩

instance : Json.Encodable ErrorReport :=
  ⟨fun r => .object [("code", Json.encode r.code), ("message", Json.encode r.message)]⟩

/-- The message of a report, and its code in brackets. -/
def text (r : ErrorReport) : String := r.message ++ " (" ++ toString r.code ++ ")"

end ErrorReport

/-- The code of a passing refusal, mostly of a device that is busy. -/
def transientCode : Int64 := -30001

/-- The codes after which the same request may succeed. -/
def recoverableCodes : List Int64 := [transientCode]

/-- A code after which the same request may succeed. -/
def isRecoverableCode (code : Int64) : Bool := recoverableCodes.contains code

/-- What a response carries. -/
inductive Reply where
  | result (value : Json)
  | error (report : ErrorReport)
  deriving DecidableEq

/-- A response to a request. -/
structure Response where
  id : Option UInt32
  reply : Reply
  deriving DecidableEq

namespace Response

/-- The id that a body carries: an integer of 32 bits under its key. -/
def idOf (body : Json) : Option UInt32 :=
  match body.get? "id" with
  | some (.number (.integer n)) => if 0 ≤ n ∧ n < 4294967296 then some (UInt32.ofNat n.toNat) else none
  | _ => none

/-- The response that a body is. -/
def ofJson (body : Json) : Except ProtocolError Response :=
  match body.get? "error" with
  | some (.string message) => .ok ⟨idOf body, .error ⟨0, message⟩⟩
  | some v =>
    match Json.decode v with
    | .ok report => .ok ⟨idOf body, .error report⟩
    | .error fault => .error (.payload (.ofFault fault))
  | none =>
    match body.get? "result" with
    | some v => .ok ⟨idOf body, .result v⟩
    | none => .ok ⟨idOf body, .result body⟩

/-- The device reports an error. -/
def isError (r : Response) : Bool :=
  match r.reply with
  | .error _ => true
  | .result _ => false

end Response

end Appliance
