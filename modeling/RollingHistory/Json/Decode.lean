import RollingHistory.Json.Error

/-!
Reading typed values out of JSON.

A `Decoder` takes one value. A record is read from an object, where members are looked up by key
and unknown ones are ignored, or from an array that holds the fields in order. The pieces for
both forms are here; each record puts them together in its own module. `each_map` says that a list
written item by item is read back item by item.
-/

namespace RollingHistory

/-- A reader of one JSON value. -/
abbrev Decoder (α : Type) := Json → Except DecodeError α

namespace Decode

variable {α β : Type}

/-- The value is of another kind. -/
def mismatch (expected : Expected) (value : Json) : Except DecodeError α :=
  .error (.wrongType (.ofJson value) expected)

def string : Decoder String
  | .string text => .ok text
  | value => mismatch .string value

def bool : Decoder Bool
  | .bool value => .ok value
  | value => mismatch .boolean value

/-- The natural number that an integer is, if it is one below the bound. -/
def below? (bound : Nat) : Int → Option Nat
  | .ofNat n => if n < bound then some n else none
  | .negSucc _ => none

/-- A 64-bit count. The caller says under which name an error speaks of it. -/
def count64 (expected : Expected) : Decoder UInt64
  | .integer value =>
    match below? UInt64.size value with
    | some n => .ok (UInt64.ofNat n)
    | none => .error (.outOfRange value expected)
  | value => mismatch expected value

/-- A 32-bit count. -/
def count32 : Decoder UInt32
  | .integer value =>
    match below? UInt32.size value with
    | some n => .ok (UInt32.ofNat n)
    | none => .error (.outOfRange value .count32)
  | value => mismatch .count32 value

/-- Every item in turn; the first bad one is the error. -/
def each (item : Decoder α) : List Json → Except DecodeError (List α)
  | [] => .ok []
  | value :: rest => do
    let first ← item value
    let others ← each item rest
    return first :: others

def list (item : Decoder α) : Decoder (List α)
  | .array items => each item items
  | value => mismatch .sequence value

/-- The null value stands for no value. -/
def nullable (decode : Decoder α) : Decoder (Option α)
  | .null => .ok none
  | value => some <$> decode value

/-! ## Records as objects -/

/-- The member with that key, if there is one. -/
def member? (members : List (String × Json)) (key : String) (decode : Decoder α) :
    Except DecodeError (Option α) :=
  match members.lookup key with
  | none => .ok none
  | some value => some <$> decode value

/-- A field that must have been there. -/
def required (key : String) : Option α → Except DecodeError α
  | none => .error (.missingField key)
  | some value => .ok value

/-! ## Records as arrays -/

/-- The `i`-th item. A row that ends before it is too short. -/
def item (row : Row) (items : List Json) (i : Nat) (decode : Decoder α) : Except DecodeError α :=
  match items[i]? with
  | none => .error (.tooShort items.length row)
  | some value => decode value

/-- The `i`-th item, or a default where the row ends before it. -/
def itemOr (default : α) (items : List Json) (i : Nat) (decode : Decoder α) :
    Except DecodeError α :=
  match items[i]? with
  | none => .ok default
  | some value => decode value

/-- The row holds no more than its fields. -/
def noMore (items : List Json) (width : Nat) : Except DecodeError Unit :=
  if items.length ≤ width then .ok () else .error (.tooLong items.length)

/-! ## Reading what was written -/

@[simp] theorem string_string (text : String) : string (.string text) = .ok text := rfl

@[simp] theorem bool_bool (value : Bool) : bool (.bool value) = .ok value := rfl

@[simp] theorem nullable_null (decode : Decoder α) : nullable decode .null = .ok none := rfl

theorem nullable_of_ok {decode : Decoder α} {value : Json} {a : α} (h : decode value = .ok a)
    (hn : value ≠ .null) : nullable decode value = .ok (some a) := by
  unfold nullable
  split
  · exact absurd rfl hn
  · rw [h]; rfl

@[simp] theorem required_some (key : String) (value : α) : required key (some value) = .ok value :=
  rfl

theorem member?_of_lookup {members : List (String × Json)} {key : String} {decode : Decoder α}
    {value : Json} {a : α} (hv : members.lookup key = some value) (ha : decode value = .ok a) :
    member? members key decode = .ok (some a) := by
  simp only [member?, hv, ha]
  rfl

theorem member?_of_lookup_none {members : List (String × Json)} {key : String}
    (h : members.lookup key = none) (decode : Decoder α) :
    member? members key decode = .ok none := by
  simp only [member?, h]

theorem each_cons_of_ok {item : Decoder α} {value : Json} {a : α} (h : item value = .ok a)
    (rest : List Json) : each item (value :: rest) = (each item rest).map (a :: ·) := by
  simp only [each, h]
  cases each item rest <;> rfl

theorem each_map {item : Decoder α} {write : β → Json} {read : β → α}
    (h : ∀ b, item (write b) = .ok (read b)) (bs : List β) :
    each item (bs.map write) = .ok (bs.map read) := by
  induction bs with
  | nil => rfl
  | cons b bs ih => rw [List.map_cons, each_cons_of_ok (h b), ih]; rfl

theorem below?_of_lt {bound n : Nat} (h : n < bound) : below? bound n = some n := if_pos h

theorem below?_of_le {bound n : Nat} (h : bound ≤ n) : below? bound n = none :=
  if_neg (Nat.not_lt.mpr h)

/-- An integer counts exactly if it lies between zero and the bound. -/
theorem below?_eq_some_iff {bound n : Nat} {value : Int} :
    below? bound value = some n ↔ value = n ∧ n < bound := by
  constructor
  · intro h
    cases value with
    | ofNat m =>
      rcases Nat.lt_or_ge m bound with hm | hm
      · rw [show below? bound (.ofNat m) = some m from below?_of_lt hm] at h
        cases h
        exact ⟨rfl, hm⟩
      · rw [show below? bound (.ofNat m) = none from below?_of_le hm] at h
        exact nomatch h
    | negSucc m => exact nomatch h
  · rintro ⟨rfl, h⟩
    exact below?_of_lt h

/-- A count is written as its number and read back. -/
theorem count64_ofNat (expected : Expected) (count : UInt64) :
    count64 expected (.integer count.toNat) = .ok count := by
  simp only [count64, below?_of_lt count.toNat_lt_size, UInt64.ofNat_toNat]

theorem count32_ofNat (count : UInt32) : count32 (.integer count.toNat) = .ok count := by
  simp only [count32, below?_of_lt count.toNat_lt_size, UInt32.ofNat_toNat]

end Decode

end RollingHistory
