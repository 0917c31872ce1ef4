import RollingHistory.Proofs.Accounting

/-!
Whether there is a summary.

A report says whether there is a summary, and a list starts with it if it has something in it. So
the two agree unless the summary is the empty text (`Contents.agrees_iff`): then the report has a
summary and the list has none in front (`exists_not_agrees`). Over a whole life this comes about
only if the summary was empty at first or a capability has answered a call with an empty text
(`run_agrees_iff`).
-/

namespace RollingHistory

namespace Contents

/-- The report and the list of a history tell the same about its summary. -/
structure Agrees (contents : Contents) : Prop where
  /-- The report has a summary exactly if the list starts with it in its frame. -/
  leads : contents.report.hasSummary = true ↔
    ∃ summary, contents.summary = some summary ∧
      [.system (Wording.frame summary)] <+: contents.list
  length : contents.list.length =
    contents.report.current + if contents.report.hasSummary then 1 else 0
  rest : contents.list.drop (if contents.report.hasSummary then 1 else 0) = contents.live

theorem agrees_iff {contents : Contents} : contents.Agrees ↔ contents.summary ≠ some "" := by
  obtain ⟨live, summary, tally⟩ := contents
  cases summary with
  | none =>
    refine iff_of_true ⟨?_, rfl, rfl⟩ (by simp)
    exact iff_of_false (by simp [report]) (by simp)
  | some summary =>
    by_cases empty : summary = ""
    · subst empty
      refine iff_of_false (fun agrees => ?_) (by simp)
      -- the report counts a message that the list does not have
      have length : live.length = live.length + 1 := agrees.length
      omega
    · have shown : list ⟨live, some summary, tally⟩ = .system (Wording.frame summary) :: live := by
        simp [list, carrier, empty]
      refine iff_of_true ⟨?_, ?_, ?_⟩ (by simpa using empty)
      · exact iff_of_true rfl ⟨summary, rfl, live, shown.symm⟩
      · rw [shown]
        rfl
      · rw [shown]
        rfl

end Contents

/-! ## Where an empty summary comes from -/

/-- A merge has an empty result only if the newer summary is empty or the merger answers so. -/
theorem Merger.empty_of_text_merge {merger : Merger} {backend : Backend} {earlier : List Call}
    {older : Option String} {newer : String}
    (empty : ((merger.merge older newer).run backend earlier).1.text = "") :
    newer = "" ∨ ∃ call, ((merger.merge older newer).run backend earlier).2 = [call] ∧
      backend earlier call = .ok "" := by
  cases older with
  | none => exact .inl empty
  | some older =>
    cases given : merger.capability with
    | none =>
      rw [merge_of_no_capability given] at empty
      exact .inl (String.append_eq_empty_iff.mp empty).2
    | some name =>
      rw [merge_of_capability given, Dialogue.run_ask] at empty ⊢
      cases answer : backend earlier ⟨name, merger.query older newer⟩ with
      | error failure =>
        rw [answer] at empty
        exact .inl empty
      | ok text =>
        rw [answer] at empty
        obtain rfl : text = "" := empty
        exact .inr ⟨_, rfl, answer⟩

namespace Cut

variable {backend : Backend} {cut : Cut}

/-- A round leaves an empty summary only if one of its calls was answered with an empty text. -/
theorem Genuine.exists_answer_empty (genuine : cut.Genuine backend)
    (empty : cut.round.summary? = some "") :
    ∃ front call, front ++ [call] <+: cut.calls ∧ backend (cut.earlier ++ front) call = .ok "" := by
  rcases genuine.round_cases with ⟨-, round, -⟩ | ⟨name, failure, -, -, round, -⟩ |
    ⟨name, fresh, -, answer, round, calls⟩
  · rw [round] at empty
    cases empty
  · rw [round] at empty
    cases empty
  · rw [round] at empty
    rw [calls]
    rcases Merger.empty_of_text_merge (Option.some.inj empty) with rfl | ⟨call, made, merged⟩
    · refine ⟨[], _, ⟨_, rfl⟩, ?_⟩
      rw [List.append_nil]
      exact answer
    · refine ⟨[_], call, ?_, merged⟩
      rw [made]
      exact ⟨[], rfl⟩

theorem empty_of_summaryAfter {summary : Option String} {cuts : List Cut}
    (empty : summaryAfter summary cuts = some "") :
    summary = some "" ∨ ∃ cut ∈ cuts, cut.round.summary? = some "" := by
  induction cuts using List.reverseRecOn with
  | nil => exact .inl empty
  | append_singleton cuts last ih =>
    rw [summaryAfter_append_singleton] at empty
    rcases Option.or_eq_some_iff.mp empty with new | ⟨-, old⟩
    · exact .inr ⟨last, by simp, new⟩
    · rcases ih old with first | ⟨cut, member, own⟩
      · exact .inl first
      · exact .inr ⟨cut, by simp [member], own⟩

end Cut

namespace Shared

/-- Calls that were made stay made. -/
theorem Transition.prefix_calls {setup : Setup} {backend : Backend} {s s' : Shared} {event : Event}
    {deed : Option Deed} (h : Transition setup backend s event deed s') : s.calls <+: s'.calls := by
  cases h with
  | asked => exact List.prefix_append ..
  | _ => exact List.prefix_rfl

end Shared

namespace Lifetime

variable {backend : Backend} {first : Lifetime}

theorem Passage.prefix_calls {x x' : Lifetime} {occurrence : Occurrence} {deed : Option Deed}
    (h : Passage backend x occurrence deed x') : x.shared.calls <+: x'.shared.calls := by
  cases h with
  | event h => exact h.prefix_calls
  | refused | chosen => exact List.prefix_rfl

theorem prefix_calls (backend : Backend) (x : Lifetime) (occurrences : List Occurrence) :
    x.shared.calls <+: (x.run backend occurrences).shared.calls := by
  induction occurrences generalizing x with
  | nil => exact List.prefix_rfl
  | cons occurrence later ih =>
    exact (passage_apply backend x occurrence).prefix_calls.trans (ih (x.apply backend occurrence))

/-- The calls of a cut are among those of the life. -/
theorem CalledIn.prefix_calls {past : List Occurrence} {cut : Cut}
    (h : CalledIn backend first past cut) :
    cut.earlier ++ cut.calls <+: (first.run backend past).shared.calls := by
  obtain ⟨before, occurrence, after, rfl, -, called⟩ := h
  rw [← called, run_append]
  exact Lifetime.prefix_calls ..

/-- At every point of every life the readers agree unless the summary is empty, and it is only if it
was so at first or a capability has given an empty answer. -/
theorem run_agrees_iff (backend : Backend) (setup : Setup) (contents : Contents)
    (earlier : List Call) (past : List Occurrence) :
    let s := ((start setup contents earlier).run backend past).shared
    (s.contents.Agrees ↔ s.contents.summary ≠ some "") ∧
      (s.contents.summary = some "" → contents.summary = some "" ∨
        ∃ front call, front ++ [call] <+: s.calls ∧ backend front call = .ok "") := by
  refine ⟨Contents.agrees_iff, fun empty => ?_⟩
  obtain ⟨cuts, base, l⟩ := ledger_run backend setup contents earlier past
  rw [l.summary] at empty
  rcases Cut.empty_of_summaryAfter empty with old | ⟨cut, member, own⟩
  · exact .inl old
  · obtain ⟨front, call, made, answer⟩ := (l.genuine cut member).exists_answer_empty own
    refine .inr ⟨cut.earlier ++ front, call, ?_, answer⟩
    rw [List.append_assoc]
    exact ((List.prefix_append_right_inj _).mpr made).trans (l.called cut member).prefix_calls

end Lifetime

/-- The snapshot of an empty history that has an empty summary. -/
def Json.emptySummary : Json :=
  .object [("compression_summary", .string ""), ("liveMessages", .array [])]

/-- It is read, and the report has a summary that the list does not show. -/
theorem exists_not_agrees :
    ∃ history, (Origin.ofJson .emptySummary .standard).build = .ok history ∧
      history.contents.report.hasSummary = true ∧ history.contents.list = [] ∧
      ¬ history.contents.Agrees :=
  ⟨⟨⟨.standard, none, none, by decide⟩, ⟨[], some "", .zero⟩⟩, rfl, rfl, rfl,
    fun agrees => Contents.agrees_iff.mp agrees rfl⟩

end RollingHistory
