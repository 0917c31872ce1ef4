import Mathlib.Data.List.Forall2
import RollingHistory.Message.Codec
import RollingHistory.Proofs.Acceptance

/-!
Which values are messages.

`Message.Denotes` is the grammar of messages, said of the raw value: which keys an object must have
and what may stand under each, and what an array must hold in which order. It leaves open what may
tell the kind of a part. A part by itself tells it by name (`Part.decode_eq_ok_iff`); inside a
content the position of the kind does as well, and with that a message is read from exactly the
values of the grammar (`Message.decode_iff_denotes`), while the names alone leave some of them out
(`Message.positional_not_named`).
-/

namespace RollingHistory

open Decode

/-! ## Roles -/

namespace Role

/-- The known roles, by the names they go by. -/
inductive IsKnown : String → Role → Prop
  | user : IsKnown "user" .user
  | assistant : IsKnown "assistant" .assistant
  | system : IsKnown "system" .system
  | tool : IsKnown "tool" .tool

/-- A string is the known role of that very name, or else another role that keeps the name. An
object is a role if its one key is the name of a known one, and null stands under it. -/
inductive Denotes : Json → Role → Prop
  | known {name : String} {role : Role} (h : IsKnown name role) : Denotes (.string name) role
  | other {name : String} (h : ∀ role, ¬ IsKnown name role) : Denotes (.string name) (.other name)
  | key {name : String} {role : Role} (h : IsKnown name role) :
    Denotes (.object [(name, .null)]) role

theorem known?_eq_some_iff {name : String} {role : Role} :
    known? name = some role ↔ IsKnown name role := by
  constructor
  · intro h
    unfold known? at h
    split at h
    · subst name
      cases h
      exact .user
    split at h
    · subst name
      cases h
      exact .assistant
    split at h
    · subst name
      cases h
      exact .system
    split at h
    · subst name
      cases h
      exact .tool
    · cases h
  · rintro (_ | _ | _ | _) <;> rfl

/-- The name of a known role is that role, and any other name is kept. -/
theorem ofName_eq_iff {name : String} {role : Role} :
    ofName name = role ↔ Denotes (.string name) role := by
  unfold ofName
  cases found : known? name with
  | some known =>
    have h := known?_eq_some_iff.mp found
    constructor
    · rintro rfl
      exact .known h
    · rintro (h' | unknown)
      · exact Option.some.inj (found.symm.trans (known?_eq_some_iff.mpr h'))
      · exact absurd h (unknown known)
  | none =>
    have unknown : ∀ role, ¬ IsKnown name role := by
      intro role h
      rw [known?_eq_some_iff.mpr h] at found
      cases found
    constructor
    · rintro rfl
      exact .other unknown
    · rintro (h | _)
      · exact absurd h (unknown role)
      · rfl

theorem decode_eq_ok_iff {value : Json} {role : Role} :
    decode value = .ok role ↔ Denotes value role := by
  unfold decode
  split
  · rw [Except.ok.injEq, ofName_eq_iff]
  · rename_i name
    cases found : known? name with
    | some known =>
      have h := known?_eq_some_iff.mp found
      constructor
      · intro read
        cases read
        exact .key h
      · rintro ⟨⟩
        rename_i h'
        rw [known?_eq_some_iff.mpr h'] at found
        cases found
        rfl
    | none =>
      constructor
      · intro read
        cases read
      · rintro ⟨⟩
        rename_i h
        rw [known?_eq_some_iff.mpr h] at found
        cases found
  · rename_i noString noKey
    constructor
    · intro read
      cases read
    · rintro ⟨⟩
      · exact absurd rfl (noString _)
      · exact absurd rfl (noString _)
      · exact absurd rfl (noKey _)

end Role

/-! ## Parts -/

namespace Part

namespace Kind

/-- The value is the name of the kind. -/
inductive IsName : Json → Kind → Prop
  | text : IsName (.string "text") .text
  | image : IsName (.string "image") .image
  | toolUse : IsName (.string "tool_use") .toolUse
  | toolResult : IsName (.string "tool_result") .toolResult

/-- The value is the name of the kind, or its position among the four. -/
inductive IsTag : Json → Kind → Prop
  | name {value : Json} {kind : Kind} (h : IsName value kind) : IsTag value kind
  | text : IsTag (.integer 0) .text
  | image : IsTag (.integer 1) .image
  | toolUse : IsTag (.integer 2) .toolUse
  | toolResult : IsTag (.integer 3) .toolResult

theorem isName_iff {value : Json} {kind : Kind} : IsName value kind ↔ value = .string kind.tag := by
  constructor
  · rintro (_ | _ | _ | _) <;> rfl
  · rintro rfl
    cases kind with
    | text => exact .text
    | image => exact .image
    | toolUse => exact .toolUse
    | toolResult => exact .toolResult

theorem decode_eq_ok_iff {value : Json} {kind : Kind} :
    decode value = .ok kind ↔ IsName value kind := by
  rw [isName_iff]
  constructor
  · intro read
    unfold decode at read
    split at read
    · rename_i tag
      cases found : ofTag? tag with
      | none =>
        rw [found] at read
        cases read
      | some other =>
        rw [found] at read
        cases read
        have same := List.find?_some found
        rw [of_decide_eq_true same]
    · cases read
  · rintro rfl
    exact decode_tag kind

/-- The position of a kind is an integer from zero on, less than there are kinds. -/
theorem position_eq_some_iff {position : Int} {kind : Kind} :
    (below? all.length position).bind (all[·]?) = some kind ↔ IsTag (.integer position) kind := by
  rw [Option.bind_eq_some_iff]
  constructor
  · rintro ⟨n, found, at_n⟩
    obtain ⟨rfl, small⟩ := below?_eq_some_iff.mp found
    match n, small, at_n with
    | 0, _, rfl => exact .text
    | 1, _, rfl => exact .image
    | 2, _, rfl => exact .toolUse
    | 3, _, rfl => exact .toolResult
  · rintro ⟨⟩
    · rename_i h
      cases h
    · exact ⟨0, rfl, rfl⟩
    · exact ⟨1, rfl, rfl⟩
    · exact ⟨2, rfl, rfl⟩
    · exact ⟨3, rfl, rfl⟩

theorem decodeNumbered_eq_ok_iff {value : Json} {kind : Kind} :
    decodeNumbered value = .ok kind ↔ IsTag value kind := by
  unfold decodeNumbered
  split
  · rename_i position
    rw [← position_eq_some_iff]
    cases (below? all.length position).bind (all[·]?) with
    | none => simp
    | some other => simp
  · rename_i noNumber
    rw [decode_eq_ok_iff]
    refine ⟨.name, ?_⟩
    rintro ⟨⟩
    · assumption
    all_goals exact absurd rfl (noNumber _)

end Kind

/-- The value is a flag. -/
def IsFlag (value : Json) (flag : Bool) : Prop := value = .bool flag

/-- The fields of a part as they stand in an object, each under its key. Only the error mark may be
absent or null. -/
inductive HasMembers (members : List (String × Json)) : Part → Prop
  | text {t : String} (ht : members.lookup "text" = some (.string t)) : HasMembers members (.text t)
  | image {mediaType data : String} (hm : members.lookup "media_type" = some (.string mediaType))
    (hd : members.lookup "data" = some (.string data)) :
    HasMembers members (.image mediaType data)
  | toolUse {id name : String} {input : Json} (hi : members.lookup "id" = some (.string id))
    (hn : members.lookup "name" = some (.string name))
    (given : members.lookup "input" = some input) : HasMembers members (.toolUse id name input)
  | toolResult {toolUseId content : String} {isError : Option Bool}
    (hi : members.lookup "tool_use_id" = some (.string toolUseId))
    (hc : members.lookup "content" = some (.string content))
    (mark : Snapshot.Nullable IsFlag (members.lookup "is_error") isError) :
    HasMembers members (.toolResult toolUseId content isError)

/-- The fields of a part as they stand in an array, in order. The error mark may be null, but it
must be there. -/
inductive HasItems : List Json → Part → Prop
  | text (t : String) : HasItems [.string t] (.text t)
  | image (mediaType data : String) :
    HasItems [.string mediaType, .string data] (.image mediaType data)
  | toolUse (id name : String) (input : Json) :
    HasItems [.string id, .string name, input] (.toolUse id name input)
  | toolResult (toolUseId content : String) {value : Json} {isError : Option Bool}
    (mark : Snapshot.Nullable IsFlag (some value) isError) :
    HasItems [.string toolUseId, .string content, value] (.toolResult toolUseId content isError)

/-- An object with the kind of the part as its type, or an array that begins with it. What tells
the kind is left open. -/
inductive Denotes (tagged : Json → Kind → Prop) : Json → Part → Prop
  | object {members : List (String × Json)} {type : Json} {part : Part}
    (given : members.lookup "type" = some type) (kind : tagged type part.kind)
    (fields : HasMembers members part) : Denotes tagged (.object members) part
  | row {type : Json} {items : List Json} {part : Part} (kind : tagged type part.kind)
    (fields : HasItems items part) : Denotes tagged (.array (type :: items)) part

/-! ## The decoders read the grammar -/

/-- A text that must be there is read exactly if it stands under its key. -/
theorem member?_string_iff {members : List (String × Json)} {key text : String} :
    member? members key string = .ok (some text) ↔
      members.lookup key = some (.string text) := by
  simp only [member?_eq_some_iff, string_eq_ok_iff, exists_eq_right]

theorem bool_reads (value : Json) (flag : Bool) : bool value = .ok flag ↔ IsFlag value flag :=
  bool_eq_ok_iff

theorem not_isFlag_null (flag : Bool) : ¬ IsFlag .null flag := by
  intro h
  cases h

/-- The fields of a part of some kind are read if they are those of a part and it is of the kind. -/
theorem decodeMembers_eq_ok_iff {members : List (String × Json)} {kind : Kind} {part : Part} :
    decodeMembers members kind = .ok part ↔ part.kind = kind ∧ HasMembers members part := by
  constructor
  · intro read
    cases kind with
    | text =>
      simp only [decodeMembers, bind_eq_ok_iff, pure_eq_ok_iff, required_eq_ok_iff] at read
      obtain ⟨_, ht, t, rfl, rfl⟩ := read
      exact ⟨rfl, .text (member?_string_iff.mp ht)⟩
    | image =>
      simp only [decodeMembers, bind_eq_ok_iff, pure_eq_ok_iff, required_eq_ok_iff] at read
      obtain ⟨_, hd, _, hm, mediaType, rfl, data, rfl, rfl⟩ := read
      exact ⟨rfl, .image (member?_string_iff.mp hm) (member?_string_iff.mp hd)⟩
    | toolUse =>
      simp only [decodeMembers, bind_eq_ok_iff, pure_eq_ok_iff, required_eq_ok_iff] at read
      obtain ⟨_, hi, _, given, _, hn, id, rfl, name, rfl, input, rfl, rfl⟩ := read
      obtain ⟨value, given, same⟩ := member?_eq_some_iff.mp given
      cases same
      exact ⟨rfl, .toolUse (member?_string_iff.mp hi) (member?_string_iff.mp hn) given⟩
    | toolResult =>
      simp only [decodeMembers, bind_eq_ok_iff, pure_eq_ok_iff, required_eq_ok_iff] at read
      obtain ⟨_, hc, isError, mark, _, hi, toolUseId, rfl, content, rfl, rfl⟩ := read
      rw [Snapshot.member?_eq] at mark
      have mark := (Snapshot.join_field?_iff bool_reads not_isFlag_null).mp
        (map_eq_ok_iff.mpr ⟨isError, mark, rfl⟩)
      exact ⟨rfl, .toolResult (member?_string_iff.mp hi) (member?_string_iff.mp hc) mark⟩
  · rintro ⟨rfl, fields⟩
    cases fields with
    | text ht =>
      rw [← member?_string_iff] at ht
      simp only [kind, decodeMembers, ht]
      rfl
    | image hm hd =>
      rw [← member?_string_iff] at hm hd
      simp only [kind, decodeMembers, hm, hd]
      rfl
    | toolUse hi hn given =>
      rw [← member?_string_iff] at hi hn
      have given := member?_of_lookup given (show Except.ok _ = _ from rfl)
      simp only [kind, decodeMembers, hi, hn, given]
      rfl
    | toolResult hi hc mark =>
      rw [← member?_string_iff] at hi hc
      obtain ⟨found, read, rfl⟩ :=
        map_eq_ok_iff.mp ((Snapshot.join_field?_iff bool_reads not_isFlag_null).mpr mark)
      rw [← Snapshot.member?_eq] at read
      simp only [kind, decodeMembers, hi, hc, read]
      rfl

/-- A value that must be there may still be null. -/
theorem nullable_bool_eq_ok_iff {value : Json} {isError : Option Bool} :
    nullable bool value = .ok isError ↔ Snapshot.Nullable IsFlag (some value) isError := by
  cases isError with
  | none =>
    rw [nullable_eq_none_iff]
    constructor
    · rintro rfl
      exact .null
    · rintro ⟨⟩
      rfl
  | some flag =>
    rw [nullable_eq_some_iff, bool_reads]
    constructor
    · rintro ⟨-, h⟩
      exact .given h
    · rintro (_ | _ | h)
      refine ⟨?_, h⟩
      rintro rfl
      exact not_isFlag_null flag h

/-- What is read of a row that holds nothing else. -/
theorem decodeItemsOnly_eq_ok_iff_length {items : List Json} {kind : Kind} {part : Part} :
    decodeItemsOnly items kind = .ok part ↔
      decodeItems items kind = .ok part ∧ items.length ≤ kind.row.width := by
  unfold decodeItemsOnly
  rw [bind_eq_ok_iff]
  constructor
  · rintro ⟨_, read, rest⟩
    split at rest
    · cases rest
      exact ⟨read, ‹_›⟩
    · cases rest
  · rintro ⟨read, short⟩
    exact ⟨part, read, if_pos short⟩

theorem decodeItemsOnly_eq_ok_iff {items : List Json} {kind : Kind} {part : Part} :
    decodeItemsOnly items kind = .ok part ↔ part.kind = kind ∧ HasItems items part := by
  rw [decodeItemsOnly_eq_ok_iff_length]
  constructor
  · rintro ⟨read, short⟩
    cases kind with
    | text =>
      simp only [decodeItems, bind_eq_ok_iff, pure_eq_ok_iff, item_eq_ok_iff,
        string_eq_ok_iff] at read
      obtain ⟨t, ⟨_, h0, rfl⟩, rfl⟩ := read
      match items, short, h0 with
      | [_], _, rfl => exact ⟨rfl, .text t⟩
    | image =>
      simp only [decodeItems, bind_eq_ok_iff, pure_eq_ok_iff, item_eq_ok_iff,
        string_eq_ok_iff] at read
      obtain ⟨mediaType, ⟨_, h0, rfl⟩, data, ⟨_, h1, rfl⟩, rfl⟩ := read
      cases eq_pair_of_getElem? short h0 h1
      exact ⟨rfl, .image mediaType data⟩
    | toolUse =>
      simp only [decodeItems, bind_eq_ok_iff, pure_eq_ok_iff, item_eq_ok_iff,
        string_eq_ok_iff] at read
      obtain ⟨id, ⟨_, h0, rfl⟩, name, ⟨_, h1, rfl⟩, input, ⟨_, h2, same⟩, rfl⟩ := read
      cases same
      match items, short, h0, h1, h2 with
      | [_, _, _], _, rfl, rfl, rfl => exact ⟨rfl, .toolUse id name input⟩
    | toolResult =>
      simp only [decodeItems, bind_eq_ok_iff, pure_eq_ok_iff, item_eq_ok_iff,
        string_eq_ok_iff, nullable_bool_eq_ok_iff] at read
      obtain ⟨toolUseId, ⟨_, h0, rfl⟩, content, ⟨_, h1, rfl⟩, isError, ⟨value, h2, mark⟩, rfl⟩ :=
        read
      match items, short, h0, h1, h2 with
      | [_, _, _], _, rfl, rfl, rfl => exact ⟨rfl, .toolResult toolUseId content mark⟩
  · rintro ⟨rfl, fields⟩
    cases fields with
    | text | image | toolUse => exact ⟨rfl, Nat.le_refl _⟩
    | toolResult toolUseId content mark =>
      refine ⟨?_, Nat.le_refl _⟩
      have mark := nullable_bool_eq_ok_iff.mpr mark
      simp only [kind, decodeItems, item, List.getElem?_cons_zero, List.getElem?_cons_succ,
        string_string, mark]
      rfl

variable {tag : Decoder Kind} {tagged : Json → Kind → Prop}

/-- A reader that takes the kind from certain values reads the grammar in which these tell it. -/
theorem decodeBy_eq_ok_iff (reads : ∀ value kind, tag value = .ok kind ↔ tagged value kind)
    {value : Json} {part : Part} :
    decodeBy tag value = .ok part ↔ Denotes tagged value part := by
  cases value with
  | object members =>
    simp only [decodeBy, bind_eq_ok_iff, required_eq_ok_iff, decodeMembers_eq_ok_iff]
    constructor
    · rintro ⟨_, found, kind, rfl, same, fields⟩
      obtain ⟨type, given, read⟩ := member?_eq_some_iff.mp found
      exact .object given (same ▸ (reads type kind).mp read) fields
    · rintro (⟨given, kind, fields⟩ | _)
      exact ⟨_, member?_of_lookup given ((reads _ _).mpr kind), _, rfl, rfl, fields⟩
  | array items =>
    cases items with
    | nil =>
      constructor
      · intro read
        cases read
      · rintro ⟨⟩
    | cons type items =>
      simp only [decodeBy, bind_eq_ok_iff, decodeItemsOnly_eq_ok_iff]
      constructor
      · rintro ⟨kind, read, same, fields⟩
        exact .row (same ▸ (reads type kind).mp read) fields
      · rintro (_ | ⟨kind, fields⟩)
        exact ⟨_, (reads _ _).mpr kind, rfl, fields⟩
  | _ =>
    constructor
    · intro read
      cases read
    · rintro ⟨⟩

/-- A part by itself tells its kind by name. -/
theorem decode_eq_ok_iff {value : Json} {part : Part} :
    decode value = .ok part ↔ Denotes Kind.IsName value part :=
  decodeBy_eq_ok_iff fun _ _ => Kind.decode_eq_ok_iff

theorem decodeWithin_eq_ok_iff {value : Json} {part : Part} :
    decodeWithin value = .ok part ↔ Denotes Kind.IsTag value part :=
  decodeBy_eq_ok_iff fun _ _ => Kind.decodeNumbered_eq_ok_iff

end Part

/-! ## Contents and messages -/

namespace Content

/-- A string is a text. An array is a list of parts if each of its items is a part. -/
inductive Denotes (tagged : Json → Part.Kind → Prop) : Json → Content → Prop
  | plain (t : String) : Denotes tagged (.string t) (.plain t)
  | parts {items : List Json} {ps : List Part}
    (each : List.Forall₂ (Part.Denotes tagged) items ps) : Denotes tagged (.array items) (.parts ps)

theorem each_decodeWithin_eq_ok_iff {items : List Json} {ps : List Part} :
    Decode.each Part.decodeWithin items = .ok ps ↔
      List.Forall₂ (Part.Denotes Part.Kind.IsTag) items ps := by
  rw [each_eq_ok_iff]
  induction items generalizing ps with
  | nil => cases ps <;> simp
  | cons value items ih =>
    cases ps with
    | nil => simp
    | cons part ps => simp [ih, Part.decodeWithin_eq_ok_iff]

theorem decode_eq_ok_iff {value : Json} {content : Content} :
    decode value = .ok content ↔ Denotes Part.Kind.IsTag value content := by
  cases value with
  | string t =>
    constructor
    · intro read
      cases read
      exact .plain t
    · rintro ⟨⟩
      rfl
  | array items =>
    constructor
    · intro read
      cases each : Decode.each Part.decodeWithin items with
      | ok ps =>
        simp only [decode, each] at read
        cases read
        exact .parts (each_decodeWithin_eq_ok_iff.mp each)
      | error error =>
        simp only [decode, each] at read
        cases read
    · rintro (_ | each)
      simp only [decode, each_decodeWithin_eq_ok_iff.mpr each]
  | _ =>
    constructor
    · intro read
      cases read
    · rintro ⟨⟩

end Content

namespace Message

/-- An object with a role and a content, any other key being ignored, or an array of just these
two. -/
inductive Denotes (tagged : Json → Part.Kind → Prop) : Json → Message → Prop
  | object {members : List (String × Json)} {role content : Json} {message : Message}
    (hr : members.lookup "role" = some role) (hc : members.lookup "content" = some content)
    (speaker : Role.Denotes role message.role)
    (said : Content.Denotes tagged content message.content) :
    Denotes tagged (.object members) message
  | row {role content : Json} {message : Message} (speaker : Role.Denotes role message.role)
    (said : Content.Denotes tagged content message.content) :
    Denotes tagged (.array [role, content]) message

/-- A message is read from the values of the grammar, in which a part is tagged by its name or its
position, and from nothing else, and it is the one that the grammar says. -/
theorem decode_iff_denotes (value : Json) (message : Message) :
    decode value = .ok message ↔ Denotes Part.Kind.IsTag value message := by
  cases value with
  | object members =>
    simp only [decode, bind_eq_ok_iff, pure_eq_ok_iff, required_eq_ok_iff]
    constructor
    · rintro ⟨_, hc, _, hr, role, rfl, content, rfl, rfl⟩
      obtain ⟨written, hc, said⟩ := member?_eq_some_iff.mp hc
      obtain ⟨spoken, hr, speaker⟩ := member?_eq_some_iff.mp hr
      exact .object hr hc (Role.decode_eq_ok_iff.mp speaker) (Content.decode_eq_ok_iff.mp said)
    · rintro (⟨hr, hc, speaker, said⟩ | _)
      exact ⟨_, member?_of_lookup hc (Content.decode_eq_ok_iff.mpr said), _,
        member?_of_lookup hr (Role.decode_eq_ok_iff.mpr speaker), _, rfl, _, rfl, rfl⟩
  | array items =>
    simp only [decode, bind_eq_ok_iff, pure_eq_ok_iff, item_eq_ok_iff, noMore_eq_ok_iff,
      Role.decode_eq_ok_iff, Content.decode_eq_ok_iff]
    constructor
    · rintro ⟨role, ⟨_, h0, speaker⟩, content, ⟨_, h1, said⟩, -, short, rfl⟩
      cases eq_pair_of_getElem? short h0 h1
      exact .row speaker said
    · rintro (_ | ⟨speaker, said⟩)
      exact ⟨_, ⟨_, rfl, speaker⟩, _, ⟨_, rfl, said⟩, (), Nat.le_refl _, rfl⟩
  | _ =>
    constructor
    · intro read
      cases read
    · rintro ⟨⟩

/-- A message with one part, which is tagged by its position. -/
def positional : Json :=
  .object [("content", .array [.object [("text", .string "x"), ("type", .integer 0)]]),
    ("role", .string "user")]

/-- Names for the kinds of part are not all that is read. -/
theorem positional_not_named :
    decode positional = .ok ⟨.user, .parts [.text "x"]⟩ ∧
      ¬ ∃ message, Denotes Part.Kind.IsName positional message := by
  refine ⟨rfl, ?_⟩
  rintro ⟨message, ⟨-, hc, -, said⟩ | _⟩
  cases hc
  generalize message.content = content at said
  cases said with
  | parts each =>
    cases each with
    | cons part _ =>
      cases part with
      | object given kind _ =>
        cases given
        cases kind

end Message

end RollingHistory
