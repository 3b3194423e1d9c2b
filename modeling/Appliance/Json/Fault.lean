import Appliance.Json.Printer
import Appliance.Text.Quoted

/-!
# Why a JSON text or value is refused

A text can break the grammar, and a value can fail to be what is expected of it. A fault found in
a text has a position, which is the number of its line and the number of octets read on it; a
fault found in a value has none. The wording is in `Json.Error.message` alone.
-/

namespace Appliance.Json

/-- What is found where something else is expected. -/
inductive Found where
  | null
  | bool (b : Bool)
  | number (n : Number)
  | string (s : String)
  | sequence
  | map
  deriving DecidableEq, Repr

/-- What a value is, as a message names it. -/
def Found.ofJson : Json → Found
  | .null => .null
  | .bool b => .bool b
  | .number n => .number n
  | .string s => .string s
  | .array _ => .sequence
  | .object _ => .map

/-- The words for what is found. -/
def Found.text : Found → String
  | .null => "null"
  | .bool b => "boolean `" ++ (if b then "true" else "false") ++ "`"
  | .number (.integer n) => "integer `" ++ (Number.integer n).text ++ "`"
  | .number (.float x) => "floating point `" ++ x.text ++ "`"
  | .string s => "string " ++ Quoted.ofString s
  | .sequence => "sequence"
  | .map => "map"

/-- What is expected of a value. -/
inductive Expected where
  | string
  | boolean
  | signed (bits : Nat)
  | unsigned (bits : Nat)
  | double
  | sequence
  | map
  | tuple (size : Nat)
  | record (name : String)
  | recordOf (name : String) (fields : Nat)
  | fewerItems
  deriving DecidableEq, Repr

/-- The words for what is expected. -/
def Expected.text : Expected → String
  | .string => "a string"
  | .boolean => "a boolean"
  | .signed bits => "i" ++ toString bits
  | .unsigned bits => "u" ++ toString bits
  | .double => "f64"
  | .sequence => "a sequence"
  | .map => "a map"
  | .tuple size => "a tuple of size " ++ toString size
  | .record name => "struct " ++ name
  | .recordOf name fields =>
    "struct " ++ name ++ " with " ++ toString fields ++ (if fields = 1 then " element" else " elements")
  | .fewerItems => "fewer elements in array"

/-- A fault in a text or in a value. -/
inductive Fault where
  | eofValue
  | eofList
  | eofObject
  | eofString
  | expectedColon
  | expectedCommaOrBracket
  | expectedCommaOrBrace
  | expectedIdent
  | expectedValue
  | invalidEscape
  | invalidNumber
  | numberOutOfRange
  | invalidUnicode
  | controlCharacter
  | keyNotString
  | loneSurrogate
  | unexpectedEndOfEscape
  | trailingComma
  | trailingCharacters
  | tooDeep
  | invalidType (found : Found) (expected : Expected)
  | invalidValue (found : Found) (expected : Expected)
  | invalidLength (length : Nat) (expected : Expected)
  | missingField (name : String)
  | duplicateField (name : String)
  deriving DecidableEq, Repr

/-- The words for a fault. -/
def Fault.text : Fault → String
  | .eofValue => "EOF while parsing a value"
  | .eofList => "EOF while parsing a list"
  | .eofObject => "EOF while parsing an object"
  | .eofString => "EOF while parsing a string"
  | .expectedColon => "expected `:`"
  | .expectedCommaOrBracket => "expected `,` or `]`"
  | .expectedCommaOrBrace => "expected `,` or `\x7d`"
  | .expectedIdent => "expected ident"
  | .expectedValue => "expected value"
  | .invalidEscape => "invalid escape"
  | .invalidNumber => "invalid number"
  | .numberOutOfRange => "number out of range"
  | .invalidUnicode => "invalid unicode code point"
  | .controlCharacter => "control character (\\u0000-\\u001F) found while parsing a string"
  | .keyNotString => "key must be a string"
  | .loneSurrogate => "lone leading surrogate in hex escape"
  | .unexpectedEndOfEscape => "unexpected end of hex escape"
  | .trailingComma => "trailing comma"
  | .trailingCharacters => "trailing characters"
  | .tooDeep => "recursion limit exceeded"
  | .invalidType found expected => "invalid type: " ++ found.text ++ ", expected " ++ expected.text
  | .invalidValue found expected => "invalid value: " ++ found.text ++ ", expected " ++ expected.text
  | .invalidLength length expected =>
    "invalid length " ++ toString length ++ ", expected " ++ expected.text
  | .missingField name => "missing field `" ++ name ++ "`"
  | .duplicateField name => "duplicate field `" ++ name ++ "`"

/-- A place in a text: its line, from one on, and the octets read on that line. -/
structure Position where
  line : Nat
  column : Nat
  deriving DecidableEq, Repr

/-- The position after some octets. -/
def Position.after (read : Octets) : Position :=
  ⟨1 + read.count 10, (read.reverse.takeWhile (· != 10)).length⟩

/-- A fault, with its position if it is one of a text. -/
structure Error where
  fault : Fault
  position : Option Position
  deriving DecidableEq, Repr

/-- A fault of a value. -/
def Error.ofFault (fault : Fault) : Error := ⟨fault, none⟩

/-- The wording of an error. -/
def Error.message (e : Error) : String :=
  match e.position with
  | none => e.fault.text
  | some p => e.fault.text ++ " at line " ++ toString p.line ++ " column " ++ toString p.column

end Appliance.Json
