import RollingHistory.Json.Basic

/-!
JSON values out of text.

Every step takes a value off the front of a list of characters and returns the rest; `none` is a
text that is no JSON. Nesting is bounded by the length of the text, which is the fuel of the
recursion, so `parse` needs none from its caller.
-/

namespace RollingHistory

namespace Json

open Decimal (Binary64)

/-- A step of the reader: what was read, and what is left. -/
abbrev Step (α : Type) := List Char → Option (α × List Char)

/-- A blank of the JSON grammar. -/
def isBlank (c : Char) : Bool := c == ' ' || c == '\t' || c == '\n' || c == '\r'

/-- Drops the blanks in front. -/
def skipBlanks (text : List Char) : List Char := text.dropWhile isBlank

/-- The value of a hexadecimal digit. -/
def hexDigit? (c : Char) : Option Nat :=
  if c.isDigit then some (c.toNat - '0'.toNat)
  else if 'a' ≤ c ∧ c ≤ 'f' then some (c.toNat - 'a'.toNat + 10)
  else if 'A' ≤ c ∧ c ≤ 'F' then some (c.toNat - 'A'.toNat + 10)
  else none

/-- Four hexadecimal digits. -/
def readHex4 : Step Nat
  | a :: b :: c :: d :: rest => do
    let digits ← [a, b, c, d].mapM hexDigit?
    return (digits.foldl (fun code digit => code * 16 + digit) 0, rest)
  | _ => none

/-- The character of a two-character escape. -/
def escape? : Char → Option Char
  | '"' => some '"'
  | '\\' => some '\\'
  | '/' => some '/'
  | 'b' => some '\x08'
  | 'f' => some '\x0c'
  | 'n' => some '\n'
  | 'r' => some '\r'
  | 't' => some '\t'
  | _ => none

/-- The code unit is the first of a surrogate pair. -/
def isLeading (code : Nat) : Bool := 0xD800 ≤ code && code < 0xDC00

/-- The code unit is the second of a surrogate pair. -/
def isTrailing (code : Nat) : Bool := 0xDC00 ≤ code && code < 0xE000

/-- The characters of a string up to its closing quote. Two escaped surrogates make one
character, and a lone one is no text. -/
def readStringBody : Nat → List Char → Step (List Char)
  | 0, _, _ => none
  | fuel + 1, read, text =>
    match text with
    | '"' :: rest => some (read.reverse, rest)
    | '\\' :: 'u' :: rest => do
      let (code, rest) ← readHex4 rest
      if isLeading code then
        match rest with
        | '\\' :: 'u' :: rest => do
          let (low, rest) ← readHex4 rest
          if isTrailing low then
            let joined := 0x10000 + (code - 0xD800) * 0x400 + (low - 0xDC00)
            readStringBody fuel (Char.ofNat joined :: read) rest
          else none
        | _ => none
      else if isTrailing code then none
      else readStringBody fuel (Char.ofNat code :: read) rest
    | '\\' :: c :: rest => do readStringBody fuel ((← escape? c) :: read) rest
    | c :: rest => if c.toNat < 0x20 then none else readStringBody fuel (c :: read) rest
    | [] => none

/-- A string behind its opening quote. -/
def readString (text : List Char) : Option (String × List Char) :=
  (readStringBody (text.length + 1) [] text).map fun (read, rest) => (String.ofList read, rest)

/-- The number that a run of decimal digits stands for. -/
def digitsValue (digits : List Char) : Nat :=
  digits.foldl (fun value c => value * 10 + (c.toNat - '0'.toNat)) 0

/-- The exponent of a number, if one stands here. -/
def readExponent (text : List Char) : Option (Option Int × List Char) :=
  match text with
  | c :: rest =>
    if c = 'e' ∨ c = 'E' then
      let (negative, rest) := match rest with
        | '-' :: rest => (true, rest)
        | '+' :: rest => (false, rest)
        | _ => (false, rest)
      let digits := rest.takeWhile Char.isDigit
      if digits.isEmpty then none
      else
        let size : Int := digitsValue digits
        some (some (if negative then -size else size), rest.dropWhile Char.isDigit)
    else some (none, text)
  | [] => some (none, text)

/-- A number. With a point or an exponent it is a double, and so is a negative zero. -/
def readNumber (text : List Char) : Option (Json × List Char) := do
  let (negative, text) := match text with
    | '-' :: rest => (true, rest)
    | _ => (false, text)
  let whole := text.takeWhile Char.isDigit
  if whole.isEmpty then none
  let text := text.dropWhile Char.isDigit
  let (decimals, text) ← match text with
    | '.' :: rest =>
      let digits := rest.takeWhile Char.isDigit
      if digits.isEmpty then none else some (some digits, rest.dropWhile Char.isDigit)
    | _ => some (none, text)
  let (exponent, text) ← readExponent text
  let size := digitsValue (whole ++ decimals.getD [])
  if decimals.isNone ∧ exponent.isNone then
    if negative ∧ size = 0 then return (.double (Binary64.ofDecimal true 0 0), text)
    else return (ofInt (if negative then -(size : Int) else size), text)
  else
    let power := exponent.getD 0 - (decimals.getD []).length
    return (.double (Binary64.ofDecimal negative size power), text)

mutual

/-- A value, blanks in front of it skipped. -/
def readValue : Nat → Step Json
  | 0, _ => none
  | fuel + 1, text =>
    match skipBlanks text with
    | 'n' :: 'u' :: 'l' :: 'l' :: rest => some (.null, rest)
    | 't' :: 'r' :: 'u' :: 'e' :: rest => some (.bool true, rest)
    | 'f' :: 'a' :: 'l' :: 's' :: 'e' :: rest => some (.bool false, rest)
    | '"' :: rest => (readString rest).map fun (read, rest) => (.string read, rest)
    | '[' :: rest =>
      match skipBlanks rest with
      | ']' :: rest => some (.array [], rest)
      | rest => (readItems fuel rest).map fun (items, rest) => (.array items, rest)
    | '\x7b' :: rest =>
      match skipBlanks rest with
      | '\x7d' :: rest => some (.object [], rest)
      | rest => (readMembers fuel rest).map fun (members, rest) => (ofMembers members, rest)
    | text => readNumber text

/-- The items of an array up to its closing bracket. -/
def readItems : Nat → Step (List Json)
  | 0, _ => none
  | fuel + 1, text => do
    let (item, rest) ← readValue fuel text
    match skipBlanks rest with
    | ',' :: rest =>
      let (items, rest) ← readItems fuel rest
      return (item :: items, rest)
    | ']' :: rest => return ([item], rest)
    | _ => none

/-- The members of an object up to its closing brace. -/
def readMembers : Nat → Step (List (String × Json))
  | 0, _ => none
  | fuel + 1, text => do
    let '"' :: rest := skipBlanks text | none
    let (key, rest) ← readString rest
    let ':' :: rest := skipBlanks rest | none
    let (value, rest) ← readValue fuel rest
    match skipBlanks rest with
    | ',' :: rest =>
      let (members, rest) ← readMembers fuel rest
      return ((key, value) :: members, rest)
    | '\x7d' :: rest => return ([(key, value)], rest)
    | _ => none

end

/-- The value that a text stands for, if it is JSON. -/
def parse (text : String) : Option Json := do
  let chars := text.toList
  let (value, rest) ← readValue (chars.length + 1) chars
  if (skipBlanks rest).isEmpty then some value else none

end Json

end RollingHistory
