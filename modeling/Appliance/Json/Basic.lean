import Appliance.Decimal.Shortest

/-!
# JSON values

A value keeps the members of an object in the order in which they are to be written. The values
that a reader produces are sorted: the members of every object stand in ascending order of their
keys and no key occurs twice. The predicates here say this, which numbers fit the wire's integers
and how deep a value is nested; no operation assumes them.
-/

namespace Appliance

/-- A number: an integer, or a double where a point or an exponent is written. -/
inductive Number where
  | integer (n : Int)
  | float (x : Double)
  deriving DecidableEq, Repr, Inhabited

/-- A JSON value. -/
inductive Json where
  | null
  | bool (b : Bool)
  | number (n : Number)
  | string (s : String)
  | array (items : List Json)
  | object (members : List (String × Json))
  deriving Repr, Inhabited

namespace Json

/-- The number that an integer is. -/
abbrev int (n : Int) : Json := .number (.integer n)

mutual

/-- Decides whether two values are equal. -/
def decEq : (v w : Json) → Decidable (v = w)
  | .null, .null => isTrue rfl
  | .bool a, .bool b =>
    if h : a = b then isTrue (h ▸ rfl) else isFalse fun e => h (by cases e; rfl)
  | .number a, .number b =>
    if h : a = b then isTrue (h ▸ rfl) else isFalse fun e => h (by cases e; rfl)
  | .string a, .string b =>
    if h : a = b then isTrue (h ▸ rfl) else isFalse fun e => h (by cases e; rfl)
  | .array xs, .array ys =>
    match decEqItems xs ys with
    | isTrue h => isTrue (h ▸ rfl)
    | isFalse h => isFalse fun e => h (by cases e; rfl)
  | .object ms, .object ns =>
    match decEqMembers ms ns with
    | isTrue h => isTrue (h ▸ rfl)
    | isFalse h => isFalse fun e => h (by cases e; rfl)
  | .null, .bool _ | .null, .number _ | .null, .string _ | .null, .array _ | .null, .object _
  | .bool _, .null | .bool _, .number _ | .bool _, .string _ | .bool _, .array _
  | .bool _, .object _
  | .number _, .null | .number _, .bool _ | .number _, .string _ | .number _, .array _
  | .number _, .object _
  | .string _, .null | .string _, .bool _ | .string _, .number _ | .string _, .array _
  | .string _, .object _
  | .array _, .null | .array _, .bool _ | .array _, .number _ | .array _, .string _
  | .array _, .object _
  | .object _, .null | .object _, .bool _ | .object _, .number _ | .object _, .string _
  | .object _, .array _ => isFalse nofun

/-- Decides whether two lists of values are equal. -/
def decEqItems : (xs ys : List Json) → Decidable (xs = ys)
  | [], [] => isTrue rfl
  | [], _ :: _ | _ :: _, [] => isFalse nofun
  | x :: xs, y :: ys =>
    match decEq x y with
    | isFalse h => isFalse fun e => h (by cases e; rfl)
    | isTrue h =>
      match decEqItems xs ys with
      | isFalse h' => isFalse fun e => h' (by cases e; rfl)
      | isTrue h' => isTrue (by rw [h, h'])

/-- Decides whether two lists of members are equal. -/
def decEqMembers : (ms ns : List (String × Json)) → Decidable (ms = ns)
  | [], [] => isTrue rfl
  | [], _ :: _ | _ :: _, [] => isFalse nofun
  | (k, x) :: ms, (l, y) :: ns =>
    if hk : k = l then
      match decEq x y with
      | isFalse h => isFalse fun e => h (by cases e; rfl)
      | isTrue h =>
        match decEqMembers ms ns with
        | isFalse h' => isFalse fun e => h' (by cases e; rfl)
        | isTrue h' => isTrue (by rw [hk, h, h'])
    else isFalse fun e => hk (by cases e; rfl)

end

instance : DecidableEq Json := decEq

/-- The value of the first member with a key, if the value is an object that has one. -/
def get? (key : String) : Json → Option Json
  | .object members => members.lookup key
  | _ => none

/-- The keys of a list of members in ascending order, none of them twice. -/
def Ascending (members : List (String × Json)) : Prop :=
  members.Pairwise fun m n => m.1 < n.1

mutual

/-- Every object in a value has its keys in ascending order. -/
def Sorted : Json → Prop
  | .null | .bool _ | .number _ | .string _ => True
  | .array items => SortedItems items
  | .object members => Ascending members ∧ SortedMembers members

/-- Every value of a list is sorted. -/
def SortedItems : List Json → Prop
  | [] => True
  | x :: xs => x.Sorted ∧ SortedItems xs

/-- The value of every member is sorted. -/
def SortedMembers : List (String × Json) → Prop
  | [] => True
  | (_, x) :: ms => x.Sorted ∧ SortedMembers ms

end

mutual

/-- Every number in a value is an integer that fits 64 bits, signed if it is negative. -/
def Integral : Json → Prop
  | .number (.integer n) => -9223372036854775808 ≤ n ∧ n < 18446744073709551616
  | .number (.float _) => False
  | .null | .bool _ | .string _ => True
  | .array items => IntegralItems items
  | .object members => IntegralMembers members

/-- Every number in a list of values is an integer that fits. -/
def IntegralItems : List Json → Prop
  | [] => True
  | x :: xs => x.Integral ∧ IntegralItems xs

/-- Every number in the values of some members is an integer that fits. -/
def IntegralMembers : List (String × Json) → Prop
  | [] => True
  | (_, x) :: ms => x.Integral ∧ IntegralMembers ms

end

mutual

/-- How many arrays and objects stand around the innermost value, itself included if it is one. -/
def depth : Json → Nat
  | .null | .bool _ | .number _ | .string _ => 0
  | .array items => depthItems items + 1
  | .object members => depthMembers members + 1

/-- The greatest depth in a list of values. -/
def depthItems : List Json → Nat
  | [] => 0
  | x :: xs => max x.depth (depthItems xs)

/-- The greatest depth of a value of some members. -/
def depthMembers : List (String × Json) → Nat
  | [] => 0
  | (_, x) :: ms => max x.depth (depthMembers ms)

end

/-- Puts a member into a list of members in descending order of their keys; of two members with
one key the later one stays. -/
def insertDescending (key : String) (value : Json) :
    List (String × Json) → List (String × Json)
  | [] => [(key, value)]
  | (k, v) :: rest =>
    if k < key then (key, value) :: (k, v) :: rest
    else if k = key then (key, value) :: rest
    else (k, v) :: insertDescending key value rest

/-- Members in ascending order of their keys; of those with one key the last one stays. -/
def sortMembers (members : List (String × Json)) : List (String × Json) :=
  (members.foldl (fun sorted (k, v) => insertDescending k v sorted) []).reverse

mutual

/-- A value with the members of every object in ascending order of their keys; of members with one
key the last one stays. -/
def sorted : Json → Json
  | .null => .null
  | .bool b => .bool b
  | .number n => .number n
  | .string s => .string s
  | .array items => .array (sortedItems items)
  | .object members => .object (sortMembers (sortedMembers members))

/-- Every value of a list sorted. -/
def sortedItems : List Json → List Json
  | [] => []
  | x :: xs => x.sorted :: sortedItems xs

/-- Some members with their values sorted, in the order in which they stand. -/
def sortedMembers : List (String × Json) → List (String × Json)
  | [] => []
  | (k, x) :: ms => (k, x.sorted) :: sortedMembers ms

end

/-- The members whose keys are not among some. -/
def without (keys : List String) (members : List (String × Json)) : List (String × Json) :=
  members.filter fun m => !keys.contains m.1

end Json

end Appliance
