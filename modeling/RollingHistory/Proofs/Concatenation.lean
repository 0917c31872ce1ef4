import RollingHistory.Proofs.Accounting

/-!
Summaries that are only put one after the other.

If the merger is chosen to be none, a summary grows by what the summarizer gives for each segment
and by nothing else. So at every point of every life it is the texts given so far, behind the first
summary if there was one, with a divider between any two and without the empty texts in front
(`run_concatenated`). A round that fails, or that is given up, leaves it as it is.
-/

namespace RollingHistory

namespace Wording

/-- Texts one after the other, the empty ones in front left out. None if there are no texts. -/
def chain : List String → Option String
  | [] => none
  | texts => some (divider.intercalate (texts.dropWhile (· = "")))

theorem chain_of_ne_nil {texts : List String} (h : texts ≠ []) :
    chain texts = some (divider.intercalate (texts.dropWhile (· = ""))) := by
  cases texts with
  | nil => exact absurd rfl h
  | cons => rfl

/-- A text comes behind the others with a divider, or alone if they have nothing in them. -/
theorem chain_append_singleton (texts : List String) (text : String) :
    chain (texts ++ [text]) =
      some ((Condenser.standing (chain texts)).elim text (· ++ divider ++ text)) := by
  rw [chain_of_ne_nil (by simp), List.dropWhile_append]
  cases h : texts.dropWhile (· = "") with
  | nil =>
    have standing : Condenser.standing (chain texts) = none := by
      cases texts with
      | nil => rfl
      | cons => rw [chain_of_ne_nil (by simp), h, String.intercalate_nil, Condenser.standing_empty]
    rw [standing]
    by_cases empty : text = "" <;> simp [empty]
  | cons head rest =>
    have inhabited : texts ≠ [] := by
      rintro rfl
      cases h
    have first : head ≠ "" := by
      have holds := List.head?_dropWhile_not (· = "") texts
      rw [h] at holds
      simpa using holds
    rw [chain_of_ne_nil inhabited, h, Condenser.standing_of_ne (Text.intercalate_ne_empty first rest)]
    simp only [List.isEmpty_cons, Bool.false_eq_true, if_false, Option.elim_some]
    rw [String.intercalate_append_of_ne_nil (by simp) (by simp), String.intercalate_singleton]

/-- More texts make a chain longer and change nothing in front. -/
theorem exists_chain_append {texts : List String} {text : String} (h : chain texts = some text)
    (more : List String) : ∃ rest, chain (texts ++ more) = some (text ++ rest) := by
  induction more using List.reverseRecOn with
  | nil => exact ⟨"", by rw [List.append_nil, h, String.append_empty]⟩
  | append_singleton more last ih =>
    obtain ⟨rest, same⟩ := ih
    rw [← List.append_assoc, chain_append_singleton, same]
    by_cases empty : text ++ rest = ""
    · obtain ⟨rfl, rfl⟩ := String.append_eq_empty_iff.mp empty
      exact ⟨last, rfl⟩
    · refine ⟨rest ++ divider ++ last, ?_⟩
      rw [Condenser.standing_of_ne empty, Option.elim_some]
      simp only [String.append_assoc]

end Wording

/-! ## One round -/

namespace Cut

variable {backend : Backend} {cut : Cut} {cuts : List Cut} {summary : Option String}

/-- The text that the summarizer gave for the segment, if it gave one. -/
def fresh? (backend : Backend) (cut : Cut) : Option String :=
  cut.setup.summarizer.bind fun name =>
    (backend cut.earlier (cut.setup.summaryCall name cut.segment)).toOption

/-- Without a merger a round puts what the summarizer gives behind the summary that stands. -/
theorem Genuine.summary?_of_alone (genuine : cut.Genuine backend)
    (alone : cut.setup.merger = some none) :
    cut.round.summary? = (cut.fresh? backend).map fun fresh =>
      (Condenser.standing cut.previous).elim fresh (· ++ Wording.divider ++ fresh) := by
  rcases genuine.round_cases with ⟨given, round, -⟩ | ⟨name, failure, given, answer, round, -⟩ |
    ⟨name, fresh, given, answer, round, -⟩
  · rw [round, fresh?, given]
    rfl
  · rw [round, fresh?, given, Option.bind_some, answer]
    rfl
  · have merger : cut.setup.condenser.effectiveMerger = ⟨none, cut.setup.settings.mergeTokens⟩ := by
      simp [Condenser.effectiveMerger, Setup.condenser, alone]
    rw [round, merger, fresh?, given, Option.bind_some, answer]
    cases Condenser.standing cut.previous <;> rfl

/-- The summary after some cuts, each of which took up the one before. -/
theorem summaryAfter_eq_chain (genuine : ∀ cut ∈ cuts, cut.Genuine backend)
    (alone : ∀ cut ∈ cuts, cut.setup.merger = some none)
    (previous : ∀ front cut back, cuts = front ++ cut :: back →
      cut.previous = summaryAfter summary front) :
    summaryAfter summary cuts =
      Wording.chain (summary.toList ++ cuts.filterMap (fresh? backend)) := by
  induction cuts using List.reverseRecOn with
  | nil =>
    cases summary with
    | none => rfl
    | some text => by_cases empty : text = "" <;> simp [summaryAfter, Wording.chain, empty]
  | append_singleton cuts last ih =>
    have before := ih (fun cut member => genuine cut (by simp [member]))
      (fun cut member => alone cut (by simp [member])) fun front cut back split =>
        previous front cut (back ++ [last]) (by rw [split, List.append_assoc, List.cons_append])
    have own := (genuine last (by simp)).summary?_of_alone (alone last (by simp))
    rw [previous cuts last [] rfl, before] at own
    rw [summaryAfter_append_singleton, before, own, List.filterMap_append, ← List.append_assoc]
    cases fresh : last.fresh? backend with
    | none => simp [fresh]
    | some text =>
      rw [List.filterMap_cons_some fresh, List.filterMap_nil, Wording.chain_append_singleton]
      rfl

end Cut

/-! ## The choice of no merger -/

namespace Setup

/-- A choice of no merger stands until another merger is chosen. -/
theorem merger_chooseAll {setup : Setup} {choices : List Choice} (alone : setup.merger = some none)
    (kept : ∀ name, .merger (some name) ∉ choices) :
    (setup.chooseAll choices).merger = some none := by
  induction choices generalizing setup with
  | nil => exact alone
  | cons choice choices ih =>
    refine ih ?_ fun name later => kept name (List.mem_cons_of_mem _ later)
    cases choice with
    | summarizer capability => exact alone
    | merger capability =>
      cases capability with
      | none => rfl
      | some name => exact absurd List.mem_cons_self (kept name)

end Setup

namespace Lifetime

variable {backend : Backend} {x first : Lifetime} {past more : List Occurrence} {cuts : List Cut}

theorem merger_run (alone : x.setup.merger = some none)
    (kept : ∀ name, .choice (.merger (some name)) ∉ past) :
    (x.run backend past).setup.merger = some none := by
  induction past generalizing x with
  | nil => exact alone
  | cons occurrence later ih =>
    refine ih ?_ fun name member => kept name (List.mem_cons_of_mem _ member)
    have h := passage_apply backend x occurrence
    generalize x.apply backend occurrence = x' at h
    cases h with
    | refused | event => exact alone
    | chosen choice =>
      show (x.setup.chooseAll [choice]).merger = some none
      refine Setup.merger_chooseAll alone fun name member => ?_
      have same : .merger (some name) = choice := List.mem_singleton.mp member
      exact kept name (by rw [same]; exact List.mem_cons_self)

/-! ## Whole lives -/

/-- `cuts` are the cuts of a life, and the summary is what the summarizer gave for them, behind the
first one. -/
structure Concatenated (backend : Backend) (first : Lifetime) (past : List Occurrence)
    (cuts : List Cut) : Prop where
  /-- There is one for each commit, with the segment that went. -/
  commits : first.sheds backend past = cuts.map fun cut => (cut.ticket, cut.segment)
  finished : ∀ cut ∈ cuts, (first.run backend past).shared.phases cut.ticket = .finished cut.outcome
  /-- The setup is that of the commit, and the calls are the last ones made before it. -/
  made : ∀ cut ∈ cuts, MadeIn backend first past cut
  called : ∀ cut ∈ cuts, CalledIn backend first past cut
  told : ∀ cut ∈ cuts, cut.Told backend
  summary : (first.run backend past).shared.contents.summary =
    Wording.chain (first.shared.contents.summary.toList ++ cuts.filterMap (Cut.fresh? backend))

theorem Ledger.concatenated {base : List Call} (l : Ledger backend first past cuts base)
    (alone : first.setup.merger = some none)
    (kept : ∀ name, .choice (.merger (some name)) ∉ past) :
    Concatenated backend first past cuts where
  commits := l.sheds
  finished := l.finished
  made := l.made
  called := l.called
  told cut member := Cut.told_of_genuine (l.genuine cut member)
  summary := by
    rw [l.summary]
    refine Cut.summaryAfter_eq_chain l.genuine (fun cut member => ?_) l.previous
    obtain ⟨before, occurrence, after, rfl, -, setup, -⟩ := l.made cut member
    rw [setup]
    exact merger_run alone fun name member => kept name (List.mem_append_left _ member)

/-- Once no merger is chosen, whatever was chosen before and whichever summarizers are, at every
point of every life the summary is the chain of the first one and what the summarizer gave for the
segments committed so far. Going on, the cuts stay and the text only gets longer. -/
theorem run_concatenated (backend : Backend) (setup : Setup) (before after : List Choice)
    (alone : ∀ name, .merger (some name) ∉ after) (contents : Contents) (earlier : List Call)
    (past : List Occurrence) (kept : ∀ name, .choice (.merger (some name)) ∉ past) :
    let first := start (setup.chooseAll (before ++ .merger none :: after)) contents earlier
    ∃ cuts, Concatenated backend first past cuts ∧
      ∀ more, (∀ name, .choice (.merger (some name)) ∉ more) →
        ∃ new, Concatenated backend first (past ++ more) (cuts ++ new) ∧
          ∀ text, (first.run backend past).shared.contents.summary = some text →
            ∃ rest, (first.run backend (past ++ more)).shared.contents.summary =
              some (text ++ rest) := by
  intro first
  have chosen : first.setup.merger = some none := by
    have split : setup.chooseAll (before ++ .merger none :: after) =
        ((setup.chooseAll before).withMerger none).chooseAll after :=
      List.foldl_append ..
    exact (congrArg Setup.merger split).trans (Setup.merger_chooseAll rfl alone)
  obtain ⟨cuts, base, l⟩ := ledger_run backend first.setup contents earlier past
  have here := l.concatenated chosen kept
  refine ⟨cuts, here, fun more further => ?_⟩
  obtain ⟨new, base, l⟩ := l.extend (.start first.setup contents earlier) more
  have later := l.concatenated chosen fun name member =>
    (List.mem_append.mp member).elim (kept name) (further name)
  refine ⟨new, later, fun text given => ?_⟩
  obtain ⟨rest, longer⟩ := Wording.exists_chain_append (here.summary.symm.trans given)
    (new.filterMap (Cut.fresh? backend))
  refine ⟨rest, later.summary.trans ?_⟩
  rw [List.filterMap_append, ← List.append_assoc]
  exact longer

/-- Gives an empty summary, a summary, none, and an empty one again. -/
def halting : Backend := Script.answer ⟨[.ok "", .ok "A", .error (.of "busy"), .ok ""],
  Script.numbered⟩

/-- An append by itself that sheds and asks once. -/
def shedding (ticket : Ticket) : List Occurrence :=
  (Event.submit ticket [.user "a", .user "b", .user "c"] ::
    List.replicate 5 (.step ticket)).map .event

theorem not_mem_shedding (ticket : Ticket) (choice : Choice) :
    .choice choice ∉ shedding ticket := by
  simp [shedding]

/-- A merger that is given up again, and then another summarizer. -/
def renouncing : Lifetime :=
  start (Setup.narrow.chooseAll [.merger (some "editor"), .merger none, .summarizer (some "clerk")])
    (.ofMessages []) []

theorem run_concatenated_halting :
    ∃ cuts, Concatenated halting renouncing ((List.range 4).flatMap shedding) cuts ∧
      (renouncing.run halting ((List.range 4).flatMap shedding)).shared.contents.summary =
        some ("A" ++ Wording.divider) ∧
      ∃ rest, (renouncing.run halting
        ((List.range 4).flatMap shedding ++ shedding 4)).shared.contents.summary =
          some ("A" ++ Wording.divider ++ rest) := by
  obtain ⟨cuts, first, onwards⟩ := run_concatenated halting .narrow [.merger (some "editor")]
    [.summarizer (some "clerk")] (by simp) (.ofMessages []) [] ((List.range 4).flatMap shedding)
    (by simp [not_mem_shedding])
  obtain ⟨new, -, longer⟩ := onwards (shedding 4) fun name => not_mem_shedding 4 _
  exact ⟨cuts, first, rfl, longer _ rfl⟩

end Lifetime

end RollingHistory
