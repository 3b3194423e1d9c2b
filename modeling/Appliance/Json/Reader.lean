import Appliance.Json.Fault

/-!
# Reading JSON

Every reader takes the octets that are left and gives back what it read and the octets after it.
A reader that fails says how many octets are left after the place of the fault, so that no reader
counts what it has read. Arrays and objects nest to a fixed number of levels, which is what the
recursion is on; the items of one of them are read in a loop that takes at least one octet a turn
and is bounded by the length of the whole text.
-/

namespace Appliance.Json

/-- Why a reader fails: the fault, the octets left after its place, and by how many octets its
column is moved back. -/
structure Stop where
  fault : Fault
  left : Nat
  back : Nat
  deriving DecidableEq, Repr

/-- What a reader gives: a result and the octets after it. -/
abbrev Reading (α : Type) := Except Stop (α × Octets)

namespace Reader

/-- A fault before some octets. -/
def failAt (fault : Fault) (rest : Octets) : Stop := ⟨fault, rest.length, 0⟩

/-- A fault of the octet that comes next, or of the end of the text. -/
def failOn (fault : Fault) (rest : Octets) : Stop := ⟨fault, rest.length - 1, 0⟩

/-- A space, a tabulator or an end of line. -/
def isBlank (x : UInt8) : Bool := x == 0x20 || x == 0x09 || x == 0x0a || x == 0x0d

/-- The octets from the first one that is not blank on. -/
def skipBlank (xs : Octets) : Octets := xs.dropWhile isBlank

/-- The rest after the octets of a word that has to come next. -/
def word : Octets → Octets → Except Stop Octets
  | [], rest => .ok rest
  | _ :: _, [] => .error (failAt .eofValue [])
  | x :: xs, y :: rest => if x = y then word xs rest else .error (failAt .expectedIdent rest)

/-! ## Numbers -/

/-- A decimal digit. -/
def isDigit (x : UInt8) : Bool := 0x30 ≤ x && x ≤ 0x39

/-- Whether a decimal digit comes next. -/
def digitNext : Octets → Bool
  | [] => false
  | x :: _ => isDigit x

/-- Appends digits to a natural number as long as it fits 64 bits, and counts them. -/
def absorb : Nat → Nat → Octets → Nat × Nat × Octets
  | significand, count, [] => (significand, count, [])
  | significand, count, x :: rest =>
    if isDigit x && significand * 10 + (x.toNat - 0x30) < 18446744073709551616 then
      absorb (significand * 10 + (x.toNat - 0x30)) (count + 1) rest
    else (significand, count, x :: rest)

/-- Skips digits and counts them. -/
def skipDigits : Nat → Octets → Nat × Octets
  | count, [] => (count, [])
  | count, x :: rest => if isDigit x then skipDigits (count + 1) rest else (count, x :: rest)

/-- A double times a power of ten, by one multiplication or division with the nearest double of the
power, after divisions by 10³⁰⁸ where the power is smaller than any double; nothing if the result
is infinite. Three divisions take every significand to zero. -/
def scaled : Nat → Float → Int → Option Float
  | steps, x, exponent =>
    if exponent.natAbs ≤ 308 then
      let power := Float.ofScientific 1 false exponent.natAbs
      if 0 ≤ exponent then
        if (x * power).isInf then none else some (x * power)
      else some (x / power)
    else if x == 0 then some x
    else if 0 ≤ exponent then none
    else
      match steps with
      | 0 => some x
      | steps + 1 => scaled steps (x / Float.ofScientific 1 false 308) (exponent + 308)

/-- The double of a sign, a significand and an exponent, before the octets that follow it. -/
def float (negative : Bool) (significand : Nat) (exponent : Int) (rest : Octets) :
    Reading Number :=
  match scaled 3 (Float.ofNat significand) exponent with
  | none => .error (failAt .numberOutOfRange rest)
  | some x => .ok (.float (Double.ofFloat (if negative then -x else x)), rest)

/-- Appends digits to an exponent as long as it fits 31 bits; whether it still does, and the octets
after the last digit that was looked at. -/
def exponentDigits : Nat → Octets → Nat × Bool × Octets
  | exponent, [] => (exponent, true, [])
  | exponent, x :: rest =>
    if isDigit x then
      if exponent * 10 + (x.toNat - 0x30) < 2147483648 then
        exponentDigits (exponent * 10 + (x.toNat - 0x30)) rest
      else (exponent, false, rest)
    else (exponent, true, x :: rest)

/-- The sign of an exponent, positive if none is written. -/
def exponentSign : Octets → Bool × Octets
  | [] => (false, [])
  | x :: rest =>
    if x = 0x2b then (false, rest) else if x = 0x2d then (true, rest) else (false, x :: rest)

/-- A number whose exponent comes next, without its mark. -/
def exponentPart (negative : Bool) (significand : Nat) (start : Int) (input : Octets) :
    Reading Number :=
  let (below, input) := exponentSign input
  match input with
  | [] => .error (failAt .eofValue [])
  | x :: rest =>
    if isDigit x then
      match exponentDigits (x.toNat - 0x30) rest with
      | (exponent, true, rest) =>
        float negative significand (if below then start - exponent else start + exponent) rest
      | (_, false, rest) =>
        if significand ≠ 0 ∧ !below then .error (failAt .numberOutOfRange rest)
        else float negative 0 0 (skipDigits 0 rest).2
    else .error (failAt .invalidNumber rest)

/-- A number whose exponent may come next. -/
def maybeExponent (negative : Bool) (significand : Nat) (start : Int) : Octets → Reading Number
  | [] => float negative significand start []
  | x :: rest =>
    if x = 0x65 ∨ x = 0x45 then exponentPart negative significand start rest
    else float negative significand start (x :: rest)

/-- A number whose fraction comes next, without its point. Digits that no longer fit the significand
are skipped. -/
def fractionPart (negative : Bool) (significand : Nat) (start : Int) (input : Octets) :
    Reading Number :=
  let (significand, count, rest) := absorb significand 0 input
  if digitNext rest then
    maybeExponent negative significand (start - count) (skipDigits 0 rest).2
  else if count = 0 then
    .error (failOn (if rest.isEmpty then .eofValue else .invalidNumber) rest)
  else maybeExponent negative significand (start - count) rest

/-- A number whose integer part is read: an integer if it fits and nothing makes it a double. -/
def afterInteger (negative : Bool) (significand : Nat) (rest : Octets) : Reading Number :=
  match rest with
  | 0x2e :: rest => fractionPart negative significand 0 rest
  | 0x65 :: rest | 0x45 :: rest => exponentPart negative significand 0 rest
  | rest =>
    if negative then
      if significand = 0 ∨ 9223372036854775808 < significand then
        .ok (.float (Double.ofFloat (-(Float.ofNat significand))), rest)
      else .ok (.integer (-(significand : Int)), rest)
    else .ok (.integer significand, rest)

/-- A number whose integer part goes on with digits that do not fit: they count as powers of
ten. -/
def longInteger (negative : Bool) (significand : Nat) (input : Octets) : Reading Number :=
  let (count, rest) := skipDigits 0 input
  match rest with
  | 0x2e :: rest => fractionPart negative significand count rest
  | rest => maybeExponent negative significand count rest

/-- A number without its sign. -/
def unsignedNumber (negative : Bool) : Octets → Reading Number
  | [] => .error (failAt .eofValue [])
  | x :: rest =>
    if x = 0x30 then
      if digitNext rest then .error (failOn .invalidNumber rest) else afterInteger negative 0 rest
    else if isDigit x then
      let (significand, _, rest) := absorb (x.toNat - 0x30) 0 rest
      if digitNext rest then longInteger negative significand rest
      else afterInteger negative significand rest
    else .error (failAt .invalidNumber rest)

/-! ## Strings -/

/-- Where a reader stands in a string. -/
inductive Place where
  /-- Between characters. -/
  | between
  /-- After a backslash. -/
  | escape
  /-- Among four hexadecimal digits, those before in reverse, after a leading surrogate if one is
  given. -/
  | digits (lead : Option Nat) (seen : Octets)
  /-- After a leading surrogate, before the backslash of the trailing one. -/
  | beforeTrail (lead : Nat)
  /-- After a leading surrogate and a backslash. -/
  | beforeMark (lead : Nat)
  deriving DecidableEq, Repr

/-- What a letter after a backslash stands for. -/
def unescape? (x : UInt8) : Option UInt8 :=
  if x = 0x22 ∨ x = 0x5c ∨ x = 0x2f then some x
  else if x = 0x62 then some 0x08
  else if x = 0x66 then some 0x0c
  else if x = 0x6e then some 0x0a
  else if x = 0x72 then some 0x0d
  else if x = 0x74 then some 0x09
  else none

/-- The number that hexadecimal digits in reverse spell. -/
def hexadecimal? : Octets → Option Nat
  | [] => some 0
  | x :: before => do
    let high ← hexadecimal? before
    let low ← Hex.value? x
    return high * 16 + low.toNat

/-- The octets of a code point, in reverse in front of others. -/
def pushCode (n : Nat) (done : Octets) : Octets :=
  (String.utf8EncodeChar (Char.ofNat n)).reverseAux done

/-- The octets that a string stands for, up to its closing quotation mark, behind those already
read in reverse. -/
def stringOctets : Place → Octets → Octets → Reading Octets
  | _, _, [] => .error (failAt .eofString [])
  | .between, done, x :: rest =>
    if x = 0x22 then .ok (done.reverse, rest)
    else if x = 0x5c then stringOctets .escape done rest
    else if x < 0x20 then .error (failAt .controlCharacter rest)
    else stringOctets .between (x :: done) rest
  | .escape, done, x :: rest =>
    match unescape? x with
    | some y => stringOctets .between (y :: done) rest
    | none =>
      if x = 0x75 then stringOctets (.digits none []) done rest
      else .error (failAt .invalidEscape rest)
  | .digits lead seen, done, x :: rest =>
    if seen.length < 3 then stringOctets (.digits lead (x :: seen)) done rest
    else
      match hexadecimal? (x :: seen), lead with
      | none, _ => .error (failAt .invalidEscape rest)
      | some n, none =>
        if 0xdc00 ≤ n ∧ n ≤ 0xdfff then .error (failAt .loneSurrogate rest)
        else if 0xd800 ≤ n ∧ n ≤ 0xdbff then stringOctets (.beforeTrail n) done rest
        else stringOctets .between (pushCode n done) rest
      | some n, some lead =>
        if 0xdc00 ≤ n ∧ n ≤ 0xdfff then
          stringOctets .between
            (pushCode (0x10000 + (lead - 0xd800) * 0x400 + (n - 0xdc00)) done) rest
        else .error (failAt .loneSurrogate rest)
  | .beforeTrail lead, done, x :: rest =>
    if x = 0x5c then stringOctets (.beforeMark lead) done rest
    else .error (failAt .unexpectedEndOfEscape rest)
  | .beforeMark lead, done, x :: rest =>
    if x = 0x75 then stringOctets (.digits (some lead) []) done rest
    else .error (failAt .unexpectedEndOfEscape rest)

/-- A string after its opening quotation mark. What it stands for has to be UTF-8; the place of a
fault in it lies as far back from the end as the first octet that is not. -/
def string (input : Octets) : Reading String :=
  match stringOctets .between [] input with
  | .error e => .error e
  | .ok (octets, rest) =>
    match Utf8.decode octets with
    | .ok cs => .ok (String.ofList cs, rest)
    | .error place => .error ⟨.invalidUnicode, rest.length, octets.length - place⟩

/-! ## Values -/

/-- A value that is no array and no object, or what `nested` makes of an opening bracket and the
octets after it. -/
def start (nested : UInt8 → Octets → Reading Json) (input : Octets) : Reading Json :=
  match skipBlank input with
  | [] => .error (failOn .eofValue [])
  | x :: rest =>
    if x = 0x22 then (string rest).map fun (s, rest) => (.string s, rest)
    else if x = 0x2d then (unsignedNumber true rest).map fun (n, rest) => (.number n, rest)
    else if isDigit x then
      (unsignedNumber false (x :: rest)).map fun (n, rest) => (.number n, rest)
    else if x = 0x5b ∨ x = 0x7b then nested x rest
    else if x = 0x6e then (word [0x75, 0x6c, 0x6c] rest).map fun rest => (.null, rest)
    else if x = 0x74 then (word [0x72, 0x75, 0x65] rest).map fun rest => (.bool true, rest)
    else if x = 0x66 then (word [0x61, 0x6c, 0x73, 0x65] rest).map fun rest => (.bool false, rest)
    else .error (failOn .expectedValue (x :: rest))

/-- The items of an array from one of them to its closing bracket, behind those already read in
reverse. The first argument bounds their number. -/
def items (item : Octets → Reading Json) : Nat → List Json → Octets → Reading (List Json)
  | 0, _, input => .error (failOn .eofList input)
  | n + 1, done, input =>
    match item input with
    | .error e => .error e
    | .ok (v, rest) =>
      match skipBlank rest with
      | [] => .error (failOn .eofList [])
      | x :: rest =>
        if x = 0x5d then .ok ((v :: done).reverse, rest)
        else if x = 0x2c then
          match skipBlank rest with
          | [] => .error (failOn .eofValue [])
          | y :: rest =>
            if y = 0x5d then .error (failOn .trailingComma (y :: rest))
            else items item n (v :: done) (y :: rest)
        else .error (failOn .expectedCommaOrBracket (x :: rest))

/-- The octets after the colon that separates a key from its value. -/
def colon (input : Octets) : Except Stop Octets :=
  match skipBlank input with
  | [] => .error (failOn .eofObject [])
  | x :: rest => if x = 0x3a then .ok rest else .error (failOn .expectedColon (x :: rest))

/-- The members of an object from the key of one of them, behind its quotation mark, to the closing
brace, together with those already read in descending order of their keys. The first argument
bounds their number. -/
def members (item : Octets → Reading Json) :
    Nat → List (String × Json) → Octets → Reading (List (String × Json))
  | 0, _, input => .error (failOn .eofObject input)
  | n + 1, done, input =>
    match string input with
    | .error e => .error e
    | .ok (key, rest) =>
      match colon rest with
      | .error e => .error e
      | .ok rest =>
        match item rest with
        | .error e => .error e
        | .ok (v, rest) =>
          match skipBlank rest with
          | [] => .error (failOn .eofObject [])
          | x :: rest =>
            if x = 0x7d then .ok ((insertDescending key v done).reverse, rest)
            else if x = 0x2c then
              match skipBlank rest with
              | [] => .error (failOn .eofValue [])
              | y :: rest =>
                if y = 0x22 then members item n (insertDescending key v done) rest
                else if y = 0x7d then .error (failOn .trailingComma (y :: rest))
                else .error (failOn .keyNotString (y :: rest))
            else .error (failOn .expectedCommaOrBrace (x :: rest))

/-- An array or an object after its opening bracket, its values read by `item`. -/
def container (item : Octets → Reading Json) (n : Nat) (opening : UInt8) (input : Octets) :
    Reading Json :=
  if opening = 0x5b then
    match skipBlank input with
    | [] => .error (failOn .eofList [])
    | x :: rest =>
      if x = 0x5d then .ok (.array [], rest)
      else (items item n [] (x :: rest)).map fun (xs, rest) => (.array xs, rest)
  else
    match skipBlank input with
    | [] => .error (failOn .eofObject [])
    | x :: rest =>
      if x = 0x7d then .ok (.object [], rest)
      else if x = 0x22 then
        (members item n [] rest).map fun (ms, rest) => (.object ms, rest)
      else .error (failOn .keyNotString (x :: rest))

/-- A value in which arrays and objects nest to a number of levels. The first argument bounds the
number of items of each of them. -/
def value (n : Nat) : Nat → Octets → Reading Json
  | 0, input => start (fun _ rest => .error (failAt .tooDeep rest)) input
  | levels + 1, input => start (container (value n levels) n) input

/-- Nothing but blanks may follow. -/
def finish (rest : Octets) : Except Stop Unit :=
  match skipBlank rest with
  | [] => .ok ()
  | x :: rest => .error (failOn .trailingCharacters (x :: rest))

end Reader

/-- How deep arrays and objects may nest in a text. -/
def maxDepth : Nat := 127

/-- The error of a reader that stopped in a text. -/
def Stop.toError (text : Octets) (stop : Stop) : Error :=
  let p := Position.after (text.take (text.length - stop.left))
  ⟨stop.fault, some ⟨p.line, p.column - stop.back⟩⟩

/-- The value of a text: one value between blanks, its objects sorted. -/
def parse (text : Octets) : Except Error Json :=
  match Reader.value text.length maxDepth text with
  | .error stop => .error (stop.toError text)
  | .ok (v, rest) =>
    match Reader.finish rest with
    | .error stop => .error (stop.toError text)
    | .ok () => .ok v

end Appliance.Json
