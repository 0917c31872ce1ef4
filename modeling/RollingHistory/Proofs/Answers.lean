import RollingHistory.Capability.Chat
import RollingHistory.Proofs.Joining

/-!
What a chat model's answer is worth.

An answer is taken if the texts of its text parts, joined, are not empty. That is not the same as
that one of them has something in it: of two empty texts, joined by a space, a space is left
(`Part.joined_ne_empty_iff`). So a capability on top of a chat model makes one request for a query
and takes the answers with a text in them, but also those with several text parts that are all
empty (`ChatModel.faithful_iff`). Whatever else is answered is a failure that says what was wrong,
and one of the model itself is kept behind it (`ChatModel.Refused`).
-/

namespace RollingHistory

namespace Part

/-- The texts of the text parts, in order. -/
def texts (parts : List Part) : List String := parts.filterMap text?

/-- Some text part has something in it. -/
def Speak (parts : List Part) : Prop := ∃ text, .text text ∈ parts ∧ text ≠ ""

/-- There are several text parts, and nothing in any of them. -/
def Blank (parts : List Part) : Prop :=
  2 ≤ (texts parts).length ∧ ∀ text, .text text ∈ parts → text = ""

variable {parts : List Part}

theorem mem_texts_iff {text : String} : text ∈ texts parts ↔ .text text ∈ parts := by
  constructor
  · intro member
    obtain ⟨part, listed, own⟩ := List.mem_filterMap.mp member
    cases part with
    | text other => rwa [← Option.some.inj own]
    | image | toolUse | toolResult => cases own
  · exact fun member => List.mem_filterMap.mpr ⟨_, member, rfl⟩

theorem not_blank_of_speak (speaks : Speak parts) : ¬ Blank parts := by
  obtain ⟨text, member, inhabited⟩ := speaks
  exact fun blank => inhabited (blank.2 text member)

/-- Joined, the texts leave something if one of them does, or if there are spaces between them. -/
theorem joined_ne_empty_iff : joined parts ≠ "" ↔ Speak parts ∨ Blank parts := by
  have empty : joined parts = "" ↔ texts parts = [] ∨ texts parts = [""] :=
    Text.intercalate_eq_empty_iff (by decide)
  rw [Ne, empty, not_or]
  constructor
  · rintro ⟨some, more⟩
    by_cases speaks : Speak parts
    · exact .inl speaks
    have silent (text : String) (member : .text text ∈ parts) : text = "" :=
      Decidable.byContradiction fun inhabited => speaks ⟨text, member, inhabited⟩
    refine .inr ⟨?_, silent⟩
    match h : texts parts with
    | [] => exact absurd h some
    | [only] =>
      have member : only ∈ texts parts := by rw [h]; exact List.mem_singleton_self only
      rw [silent only (mem_texts_iff.mp member)] at h
      exact absurd h more
    | _ :: _ :: _ => exact Nat.le_add_left 2 _
  · rintro (⟨text, member, inhabited⟩ | ⟨several, -⟩)
    · rw [← mem_texts_iff] at member
      refine ⟨List.ne_nil_of_mem member, fun single => inhabited ?_⟩
      rw [single] at member
      exact List.mem_singleton.mp member
    · constructor <;> intro short <;> rw [short] at several <;> exact absurd several (by decide)

end Part

namespace ChatModel

/-- Why an answer is not taken. A failure of the model itself has its causes kept behind the new
one. -/
inductive Refused (m : ChatModel) : Except Failure ChatAnswer → Failure → Prop
  | unreachable (failure : Failure) : Refused m (.error failure)
    ⟨"Failed to call " ++ m.provider ++ " (" ++ m.model ++ ") for summarization",
      failure.outermost :: failure.causes⟩
  | silent {parts : List Part} (speechless : ¬ Part.Speak parts) (single : ¬ Part.Blank parts) :
    Refused m (.ok (.success parts)) ⟨"No text in summarization response", []⟩
  | rateLimited : Refused m (.ok .rateLimited) ⟨"Rate limited during summarization", []⟩
  | invalidRequest (detail : String) : Refused m (.ok (.invalidRequest detail))
    ⟨"Invalid request during summarization: " ++ detail, []⟩
  | serverError (detail : String) : Refused m (.ok (.serverError detail))
    ⟨"Server error during summarization: " ++ detail, []⟩

variable {m : ChatModel} {answer : Except Failure ChatAnswer}

theorem read_success (m : ChatModel) (parts : List Part) :
    m.read (.ok (.success parts)) =
      if Part.joined parts = "" then .error (.of "No text in summarization response")
      else .ok (Part.joined parts) := by
  unfold read
  simp only [String.isEmpty_iff]

theorem read_eq_ok_iff {text : String} :
    m.read answer = .ok text ↔ ∃ parts, answer = .ok (.success parts) ∧
      (Part.Speak parts ∨ Part.Blank parts) ∧ text = " ".intercalate (Part.texts parts) := by
  constructor
  · intro taken
    rcases answer with failure | ⟨parts⟩ | _ | _ | _
    case ok.success =>
      rw [read_success] at taken
      split at taken
      · cases taken
      · rename_i inhabited
        exact ⟨parts, rfl, Part.joined_ne_empty_iff.mp inhabited, (Except.ok.inj taken).symm⟩
    all_goals cases taken
  · rintro ⟨parts, rfl, inhabited, rfl⟩
    rw [read_success, if_neg (Part.joined_ne_empty_iff.mpr inhabited)]
    rfl

theorem read_eq_error_iff {failure : Failure} :
    m.read answer = .error failure ↔ Refused m answer failure := by
  constructor
  · intro refused
    rcases answer with failure | ⟨parts⟩ | _ | detail | detail
    case ok.success =>
      rw [read_success] at refused
      split at refused
      · rename_i empty
        have neither := mt Part.joined_ne_empty_iff.mpr (not_not_intro empty)
        rw [not_or] at neither
        rw [← Except.error.inj refused]
        exact .silent neither.1 neither.2
      · cases refused
    all_goals
      rw [← Except.error.inj refused]
      constructor
  · intro refused
    cases refused with
    | silent speechless single =>
      have empty : Part.joined _ = "" := Decidable.byContradiction fun inhabited =>
        (Part.joined_ne_empty_iff.mp inhabited).elim speechless single
      rw [read_success, if_pos empty]
      rfl
    | unreachable | rateLimited | invalidRequest | serverError => rfl

/-- For a query, the model is asked once, and its answer is taken exactly if it contains text. -/
structure Faithful (m : ChatModel) (system : String) (earlier : List ChatQuery) (query : Query) :
    Prop where
  asked : ((m.converse system query).run m.chat earlier).2 =
    [⟨system, [.user query.prompt], query.maxTokens⟩]
  taken : ∀ text, ((m.converse system query).run m.chat earlier).1 = .ok text ↔
    ∃ parts, m.chat earlier ⟨system, [.user query.prompt], query.maxTokens⟩ = .ok (.success parts) ∧
      Part.Speak parts ∧ text = " ".intercalate (Part.texts parts)

/-- Whatever the model remembers and answers, it is asked once, and its answer is taken exactly if
it contains text, unless it has several text parts that are all empty. Such an answer is taken
too, and every other is refused with its reason. -/
theorem faithful_iff (m : ChatModel) (system : String) (earlier : List ChatQuery) (query : Query) :
    let question : ChatQuery := ⟨system, [.user query.prompt], query.maxTokens⟩
    let result := (m.converse system query).run m.chat earlier
    (m.Faithful system earlier query ↔
        ∀ parts, m.chat earlier question = .ok (.success parts) → ¬ Part.Blank parts) ∧
      result.2 = [question] ∧
      (∀ text, result.1 = .ok text ↔ ∃ parts, m.chat earlier question = .ok (.success parts) ∧
        (Part.Speak parts ∨ Part.Blank parts) ∧ text = " ".intercalate (Part.texts parts)) ∧
      ∀ failure, result.1 = .error failure ↔ m.Refused (m.chat earlier question) failure := by
  intro question result
  have asked : result.2 = [question] := rfl
  have taken (text : String) : result.1 = .ok text ↔
      ∃ parts, m.chat earlier question = .ok (.success parts) ∧
        (Part.Speak parts ∨ Part.Blank parts) ∧ text = " ".intercalate (Part.texts parts) :=
    read_eq_ok_iff
  refine ⟨⟨fun faithful parts answered blank => ?_, fun whole => ⟨asked, fun text => ?_⟩⟩, asked,
    taken, fun failure => read_eq_error_iff⟩
  · obtain ⟨others, also, speaks, -⟩ :=
      (faithful.taken _).mp ((taken _).mpr ⟨parts, answered, .inr blank, rfl⟩)
    obtain rfl : parts = others := by cases answered.symm.trans also; rfl
    exact Part.not_blank_of_speak speaks blank
  · refine (taken text).trans (exists_congr fun parts => and_congr_right fun answered => ?_)
    have speaks : Part.Speak parts ∨ Part.Blank parts ↔ Part.Speak parts :=
      or_iff_left (whole parts answered)
    rw [speaks]

/-- Two empty texts are taken for an answer, and the space between them for its text. -/
theorem exists_not_faithful :
    let m : ChatModel := ⟨"mock", "mock-model", fun _ _ => .ok (.success [.text "", .text ""])⟩
    ((m.converse summarizerPrompt ⟨"p", 10⟩).run m.chat []).1 = .ok " " ∧
      ¬ m.Faithful summarizerPrompt [] ⟨"p", 10⟩ := by
  intro m
  have taken : ((m.converse summarizerPrompt ⟨"p", 10⟩).run m.chat []).1 = .ok " " := rfl
  refine ⟨taken, fun faithful => ?_⟩
  obtain ⟨parts, answered, ⟨text, member, inhabited⟩, -⟩ := (faithful.taken " ").mp taken
  cases answered
  simp at member
  exact inhabited member

end ChatModel

end RollingHistory
