import RollingHistory.Json.Decode

/-!
What a decoder has read if it succeeded.

Each piece of a decoder succeeds on the values of its own form and on no others. `bind_eq_ok_iff`
takes a sequence of them apart, so that a whole decoder is opened piece by piece.
-/

namespace RollingHistory

section Sequence

variable {ε α β : Type} {x : Except ε α}

theorem bind_eq_ok_iff {f : α → Except ε β} {b : β} :
    x >>= f = .ok b ↔ ∃ a, x = .ok a ∧ f a = .ok b := by
  constructor
  · intro h
    cases x with
    | error e => cases h
    | ok a => exact ⟨a, rfl, h⟩
  · rintro ⟨a, rfl, h⟩
    exact h

theorem map_eq_ok_iff {f : α → β} {b : β} : f <$> x = .ok b ↔ ∃ a, x = .ok a ∧ f a = b := by
  constructor
  · intro h
    cases x with
    | error e => cases h
    | ok a => exact ⟨a, rfl, Except.ok.inj h⟩
  · rintro ⟨a, rfl, rfl⟩
    rfl

theorem pure_eq_ok_iff {a b : α} : (pure a : Except ε α) = .ok b ↔ a = b :=
  ⟨Except.ok.inj, congrArg Except.ok⟩

end Sequence

namespace Decode

variable {α : Type} {decode : Decoder α} {value : Json} {a : α}

/-! ## Single values -/

theorem string_eq_ok_iff {text : String} : string value = .ok text ↔ value = .string text := by
  cases value with
  | string other =>
    constructor
    · intro h
      rw [Except.ok.inj h]
    · intro h
      rw [Json.string.inj h]
      rfl
  | _ => exact ⟨nofun, nofun⟩

theorem bool_eq_ok_iff {flag : Bool} : bool value = .ok flag ↔ value = .bool flag := by
  cases value with
  | bool other =>
    constructor
    · intro h
      rw [Except.ok.inj h]
    · intro h
      rw [Json.bool.inj h]
      rfl
  | _ => exact ⟨nofun, nofun⟩

/-- A count is read from its own number and from nothing else. -/
theorem count64_eq_ok_iff {expected : Expected} {count : UInt64} :
    count64 expected value = .ok count ↔ value = .integer count.toNat := by
  constructor
  · intro h
    cases value with
    | integer number =>
      unfold count64 at h
      dsimp only at h
      split at h
      · rename_i n found
        obtain ⟨rfl, small⟩ := below?_eq_some_iff.mp found
        rw [← Except.ok.inj h, UInt64.toNat_ofNat_of_lt' small]
      · cases h
    | _ => cases h
  · rintro rfl
    exact count64_ofNat expected count

theorem nullable_eq_none_iff : nullable decode value = .ok none ↔ value = .null := by
  constructor
  · intro h
    unfold nullable at h
    split at h
    · rfl
    · obtain ⟨a, -, h⟩ := map_eq_ok_iff.mp h
      cases h
  · rintro rfl
    rfl

theorem nullable_eq_some_iff :
    nullable decode value = .ok (some a) ↔ value ≠ .null ∧ decode value = .ok a := by
  constructor
  · intro h
    unfold nullable at h
    split at h
    · cases h
    · rename_i given
      obtain ⟨b, read, same⟩ := map_eq_ok_iff.mp h
      rw [← Option.some.inj same]
      exact ⟨given, read⟩
  · rintro ⟨given, read⟩
    exact nullable_of_ok read given

/-- A list is read if every item is. -/
theorem each_eq_ok_iff {items : List Json} {as : List α} :
    each decode items = .ok as ↔ items.map decode = as.map .ok := by
  induction items generalizing as with
  | nil =>
    cases as with
    | nil => exact iff_of_true rfl rfl
    | cons a as => simp [each]
  | cons value rest ih =>
    simp only [each, bind_eq_ok_iff, pure_eq_ok_iff, ih, List.map_cons]
    cases as with
    | nil => simp
    | cons a as => simp

theorem list_eq_ok_iff {as : List α} :
    list decode value = .ok as ↔ ∃ items, value = .array items ∧ items.map decode = as.map .ok := by
  cases value with
  | array items => simp [list, each_eq_ok_iff]
  | _ => exact ⟨nofun, nofun⟩

/-! ## Records as objects -/

section Objects

variable {members : List (String × Json)} {key : String}

theorem member?_eq_none_iff :
    member? members key decode = .ok none ↔ members.lookup key = none := by
  unfold member?
  cases members.lookup key with
  | none => exact iff_of_true rfl rfl
  | some value => simp [map_eq_ok_iff]

theorem member?_eq_some_iff :
    member? members key decode = .ok (some a) ↔
      ∃ value, members.lookup key = some value ∧ decode value = .ok a := by
  unfold member?
  cases members.lookup key with
  | none => exact ⟨nofun, nofun⟩
  | some value => simp [map_eq_ok_iff]

theorem required_eq_ok_iff {found : Option α} : required key found = .ok a ↔ found = some a := by
  cases found with
  | none => exact ⟨nofun, nofun⟩
  | some b => simp

end Objects

/-! ## Records as arrays -/

section Rows

variable {row : Row} {items : List Json} {i : Nat}

theorem item_eq_ok_iff :
    item row items i decode = .ok a ↔ ∃ value, items[i]? = some value ∧ decode value = .ok a := by
  unfold item
  cases items[i]? with
  | none => exact ⟨nofun, nofun⟩
  | some value => simp

theorem noMore_eq_ok_iff {width : Nat} {u : Unit} :
    noMore items width = .ok u ↔ items.length ≤ width := by
  unfold noMore
  split
  · exact iff_of_true rfl ‹_›
  · exact iff_of_false nofun ‹_›

/-- A row of no more than two items is known by them. -/
theorem eq_pair_of_getElem? {first second : Json} (short : items.length ≤ 2)
    (h0 : items[0]? = some first) (h1 : items[1]? = some second) : items = [first, second] := by
  match items, short, h0, h1 with
  | [_, _], _, rfl, rfl => rfl

end Rows

end Decode

end RollingHistory
