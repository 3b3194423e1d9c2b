import Appliance.Hex
import Appliance.Json.Basic
import Appliance.Text.Utf8

/-!
# Writing JSON

A value is written without blanks, its members in the order in which they stand. Strings escape
quotation marks, backslashes and control characters and nothing else; a double has the shortest
digits that read back, and an exponent below 1e-5 and from 1e16 on.

Writing puts characters in front of a reversed text, so that long arrays take no stack;
`Json.chars` says what the text is.
-/

namespace Appliance

/-- Doubles are written with a point from 1e-5 up to 1e16, and with a signed exponent elsewhere. -/
def Double.layout : Decimal.Layout := ⟨-4, 16, "e", "+", ".0"⟩

/-- The text of a double; what is no finite number is written as null. -/
def Double.text (x : Double) : String :=
  if !x.isFinite then "null"
  else
    let sign := if x.isNegative then "-" else ""
    if x.isZero then sign ++ "0.0" else sign ++ Double.layout.write (Decimal.shortest x)

/-- The characters of an integer: its decimal digits, after a minus if it is negative. -/
def Number.integerChars (n : Int) : List Char :=
  if n < 0 then '-' :: Nat.toDigits 10 n.natAbs else Nat.toDigits 10 n.natAbs

/-- The characters of a number. -/
def Number.chars : Number → List Char
  | .integer n => integerChars n
  | .float x => x.text.toList

/-- The characters of a number as a text. -/
def Number.text (n : Number) : String := String.ofList n.chars

namespace Json

/-- A character inside a string. -/
def escape (c : Char) : List Char :=
  if c = '"' then ['\\', '"']
  else if c = '\\' then ['\\', '\\']
  else if c.toNat < 0x20 then
    if c = '\n' then ['\\', 'n']
    else if c = '\r' then ['\\', 'r']
    else if c = '\t' then ['\\', 't']
    else if c = '\x08' then ['\\', 'b']
    else if c = '\x0c' then ['\\', 'f']
    else ['\\', 'u', '0', '0', Hex.digit (c.toNat / 16), Hex.digit (c.toNat % 16)]
  else [c]

/-- The characters of a string with its quotation marks. -/
def stringChars (s : String) : List Char := '"' :: s.toList.flatMap escape ++ ['"']

mutual

/-- The characters of a value. -/
def chars : Json → List Char
  | .null => ['n', 'u', 'l', 'l']
  | .bool true => ['t', 'r', 'u', 'e']
  | .bool false => ['f', 'a', 'l', 's', 'e']
  | .number n => n.chars
  | .string s => stringChars s
  | .array items => '[' :: itemsChars items ++ [']']
  | .object members => '\x7b' :: membersChars members ++ ['\x7d']

/-- The characters of values with commas between them. -/
def itemsChars : List Json → List Char
  | [] => []
  | [x] => x.chars
  | x :: y :: xs => x.chars ++ ',' :: itemsChars (y :: xs)

/-- The characters of members with commas between them. -/
def membersChars : List (String × Json) → List Char
  | [] => []
  | [(k, x)] => stringChars k ++ ':' :: x.chars
  | (k, x) :: m :: ms => stringChars k ++ ':' :: (x.chars ++ ',' :: membersChars (m :: ms))

end

/-- A string in front of a reversed text. -/
def emitString (s : String) (done : List Char) : List Char :=
  '"' :: s.toList.foldl (fun done c => (escape c).reverseAux done) ('"' :: done)

mutual

/-- A value in front of a reversed text. -/
def emit : Json → List Char → List Char
  | .null, done => ['l', 'l', 'u', 'n'] ++ done
  | .bool true, done => ['e', 'u', 'r', 't'] ++ done
  | .bool false, done => ['e', 's', 'l', 'a', 'f'] ++ done
  | .number n, done => n.chars.reverseAux done
  | .string s, done => emitString s done
  | .array items, done => emitItems items ('[' :: done)
  | .object members, done => emitMembers members ('\x7b' :: done)

/-- The rest of an array in front of a reversed text. -/
def emitItems : List Json → List Char → List Char
  | [], done => ']' :: done
  | [x], done => ']' :: x.emit done
  | x :: y :: xs, done => emitItems (y :: xs) (',' :: x.emit done)

/-- The rest of an object in front of a reversed text. -/
def emitMembers : List (String × Json) → List Char → List Char
  | [], done => '\x7d' :: done
  | [(k, x)], done => '\x7d' :: x.emit (':' :: emitString k done)
  | (k, x) :: m :: ms, done => emitMembers (m :: ms) (',' :: x.emit (':' :: emitString k done))

end

/-- The compact text of a value. -/
def text (v : Json) : String := String.ofList (v.emit []).reverse

/-- The octets of the compact text of a value. -/
def octets (v : Json) : Octets := Utf8.encode (v.emit []).reverse

/-- A string goes in front of a reversed text as its characters do, reversed. -/
theorem emitString_eq (s : String) (done : List Char) :
    emitString s done = (stringChars s).reverse ++ done := by
  have fold (cs done : List Char) :
      cs.foldl (fun done c => (escape c).reverseAux done) done =
        (cs.flatMap escape).reverse ++ done := by
    induction cs generalizing done with
    | nil => rfl
    | cons c cs ih =>
      rw [List.foldl_cons, ih, List.reverseAux_eq, List.flatMap_cons, List.reverse_append,
        List.append_assoc]
  unfold emitString stringChars
  rw [fold]
  simp

mutual

/-- A value goes in front of a reversed text as its characters do, reversed. -/
theorem emit_eq : (v : Json) → (done : List Char) → v.emit done = v.chars.reverse ++ done
  | .null, done => by simp [emit, chars]
  | .bool true, done => by simp [emit, chars]
  | .bool false, done => by simp [emit, chars]
  | .number n, done => by simp [emit, chars, List.reverseAux_eq]
  | .string s, done => by simp [emit, chars, emitString_eq]
  | .array items, done => by simp [emit, chars, emitItems_eq items]
  | .object members, done => by simp [emit, chars, emitMembers_eq members]

/-- The rest of an array goes in front as its characters and the closing bracket do, reversed. -/
theorem emitItems_eq : (xs : List Json) → (done : List Char) →
    emitItems xs done = ']' :: ((itemsChars xs).reverse ++ done)
  | [], done => by simp [emitItems, itemsChars]
  | [x], done => by simp [emitItems, itemsChars, emit_eq x]
  | x :: y :: xs, done => by
    simp [emitItems, itemsChars, emit_eq x, emitItems_eq (y :: xs)]

/-- The rest of an object goes in front as its characters and the closing brace do, reversed. -/
theorem emitMembers_eq : (ms : List (String × Json)) → (done : List Char) →
    emitMembers ms done = '\x7d' :: ((membersChars ms).reverse ++ done)
  | [], done => by simp [emitMembers, membersChars]
  | [(k, x)], done => by simp [emitMembers, membersChars, emit_eq x, emitString_eq]
  | (k, x) :: m :: ms, done => by
    simp [emitMembers, membersChars, emit_eq x, emitString_eq, emitMembers_eq (m :: ms)]

end

/-- The compact text consists of the characters of the value. -/
theorem text_eq (v : Json) : v.text = String.ofList v.chars := by simp [text, emit_eq]

/-- The octets of the compact text encode the characters of the value. -/
theorem octets_eq (v : Json) : v.octets = Utf8.encode v.chars := by simp [octets, emit_eq]

end Json

end Appliance
