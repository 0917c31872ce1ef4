import RollingHistory.Json.Basic
import RollingHistory.Text.Quoted

/-!
Why a JSON value was refused.

`DecodeError` names the cause: what was found and what was expected, a member missing or given
twice, a list of the wrong length, a name that is none of the known ones. `DecodeError.message`
words it.
-/

namespace RollingHistory

open Decimal (Binary64)

/-- A JSON value, as far as an error tells it. -/
inductive Found where
  | null
  | boolean (value : Bool)
  | integer (value : Int)
  | double (value : Binary64)
  | string (text : String)
  | sequence
  | map
  deriving DecidableEq, Repr

namespace Found

/-- What an error tells of a value. -/
def ofJson : Json → Found
  | .null => .null
  | .bool value => .boolean value
  | .integer value => .integer value
  | .double value => .double value
  | .string text => .string text
  | .array _ => .sequence
  | .object _ => .map

/-- The phrase for it. -/
def phrase : Found → String
  | .null => "null"
  | .boolean value => "boolean `" ++ (if value then "true" else "false") ++ "`"
  | .integer value => "integer `" ++ value.repr ++ "`"
  | .double value => "floating point `" ++ value.text ++ "`"
  | .string text => "string " ++ Text.quoted text
  | .sequence => "sequence"
  | .map => "map"

end Found

/-- What a decoder was ready to read. -/
inductive Expected where
  | string
  | boolean
  | sequence
  | count64
  | size
  | count32
  | record (name : String)
  | tagged (name : String)
  | tag
  deriving DecidableEq, Repr

/-- The phrase for it. -/
def Expected.phrase : Expected → String
  | .string => "a string"
  | .boolean => "a boolean"
  | .sequence => "a sequence"
  | .count64 => "u64"
  | .size => "usize"
  | .count32 => "u32"
  | .record name => "struct " ++ name
  | .tagged name => "internally tagged enum " ++ name
  | .tag => "variant identifier"

/-- A list that stands for a record: the record's name and the number of its fields. -/
structure Row where
  name : String
  width : Nat
  deriving DecidableEq, Repr

/-- `1 element`, `2 elements`. -/
def elements (n : Nat) : String :=
  n.repr ++ if n = 1 then " element" else " elements"

/-- Why a value was refused. -/
inductive DecodeError where
  | wrongType (found : Found) (expected : Expected)
  | outOfRange (value : Int) (expected : Expected)
  | missingField (name : String)
  | duplicateField (name : String)
  | tooShort (given : Nat) (row : Row)
  | tooLong (given : Nat)
  | tooLongFor (given : Nat) (width : Nat)
  | unknownVariant (name : String) (known : List String)
  | noVariant (name : String)
  deriving DecidableEq, Repr

namespace DecodeError

/-- The wording of the cause. -/
def message : DecodeError → String
  | .wrongType found expected =>
    "invalid type: " ++ found.phrase ++ ", expected " ++ expected.phrase
  | .outOfRange value expected =>
    "invalid value: " ++ (Found.integer value).phrase ++ ", expected " ++ expected.phrase
  | .missingField name => "missing field `" ++ name ++ "`"
  | .duplicateField name => "duplicate field `" ++ name ++ "`"
  | .tooShort given row =>
    "invalid length " ++ given.repr ++ ", expected " ++ row.name ++ " with " ++ elements row.width
  | .tooLong given => "invalid length " ++ given.repr ++ ", expected fewer elements in array"
  | .tooLongFor given width =>
    "invalid length " ++ given.repr ++ ", expected " ++ elements width ++ " in sequence"
  | .unknownVariant name known =>
    "unknown variant `" ++ name ++ "`, expected one of "
      ++ ", ".intercalate (known.map fun variant => "`" ++ variant ++ "`")
  | .noVariant name => "data did not match any variant of untagged enum " ++ name

end DecodeError

end RollingHistory
