import RollingHistory.Decimal.Notation

/-!
JSON values.

A number is an integer or a double, and the two never equal each other. An object is its list of
members; `Json.ofMembers` puts members in the order of their keys, the last of several equal keys
winning. `Json.equals` compares values as numbers compare, so that the two zeros are one value.
-/

namespace RollingHistory

open Decimal (Binary64)

/-- A JSON value. -/
inductive Json where
  | null
  | bool (value : Bool)
  | integer (value : Int)
  | double (value : Binary64)
  | string (text : String)
  | array (items : List Json)
  | object (members : List (String × Json))
  deriving Inhabited, Repr

namespace Json

/-- An integer that fits in 64 bits, signed or unsigned, is kept exactly; any other is the
nearest double. -/
def ofInt (value : Int) : Json :=
  if Int64.minValue.toInt ≤ value ∧ value < UInt64.size then .integer value
  else .double (Binary64.ofDecimal (value < 0) value.natAbs 0)

/-- A count as a JSON number. -/
def ofNat (value : Nat) : Json := ofInt value

/-- The member goes before the first larger key, in place of an equal one. -/
def insertMember (member : String × Json) : List (String × Json) → List (String × Json)
  | [] => [member]
  | head :: rest =>
    if member.1 < head.1 then member :: head :: rest
    else if member.1 = head.1 then member :: rest
    else head :: insertMember member rest

/-- The object with the given members. -/
def ofMembers (members : List (String × Json)) : Json :=
  .object (members.foldl (fun sorted member => insertMember member sorted) [])

/-- The member of an object, by key. -/
def get? (key : String) : Json → Option Json
  | .object members => members.lookup key
  | _ => none

mutual

/-- Equality of values, doubles compared as numbers. -/
def equals : Json → Json → Bool
  | .null, .null => true
  | .bool a, .bool b => a == b
  | .integer a, .integer b => a == b
  | .double a, .double b => a.equals b
  | .string a, .string b => a == b
  | .array a, .array b => equalItems a b
  | .object a, .object b => equalMembers a b
  | _, _ => false

/-- Equality item by item. -/
def equalItems : List Json → List Json → Bool
  | [], [] => true
  | a :: as, b :: bs => equals a b && equalItems as bs
  | _, _ => false

/-- Equality member by member, in the order the members stand. -/
def equalMembers : List (String × Json) → List (String × Json) → Bool
  | [], [] => true
  | (k, a) :: as, (l, b) :: bs => k == l && equals a b && equalMembers as bs
  | _, _ => false

end

end Json

end RollingHistory
