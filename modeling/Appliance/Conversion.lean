import Appliance.Json.Decode

/-!
# Typed results

The result of a request is a JSON value. Whatever can be read from one can be asked for instead; a
value that does not fit gives an error with the reason in words.
-/

namespace Appliance

/-- A value is not what was asked for. -/
structure ConversionError where
  reason : String
  deriving DecidableEq, Repr

/-- The wording of an error. -/
def ConversionError.message (e : ConversionError) : String := "Parse error: " ++ e.reason

/-- A value as what is asked for. -/
def convert {α : Type} [Json.Decodable α] (v : Json) : Except ConversionError α :=
  match Json.decode v with
  | .ok a => .ok a
  | .error fault => .error ⟨fault.text⟩

end Appliance
