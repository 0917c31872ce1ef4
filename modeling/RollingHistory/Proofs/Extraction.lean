import RollingHistory.Proofs.Bullets
import RollingHistory.Proofs.Lasting

/-!
A copying chat model loses no turn.

Whatever it is asked, it answers with the bullets of the prompt (`Extractive.capability_eq_reply`).
So a round leaves no summary exactly if nothing is said in its segment, and else one that consists
of the bullets of the older summary and those of the segment, behind the ones in the wording of the
request to merge if there was one (`Cut.Genuine.summary?_of_spoken`). After any cuts it is the
digest of their segments (`Cut.Copied.summaryAfter_eq`), in which the bullets of all of them add up
in order, and none of them is lost and none comes twice (`run_extracted`).
-/

namespace RollingHistory

open Extractive Text

/-! ## What the model answers -/

namespace Extractive

/-- The bullets of the prompt, if it has any. -/
def reply (prompt : String) : Reply :=
  if (extract prompt).isEmpty then .error (.of "No text in summarization response")
  else .ok (extract prompt)

theorem capability_eq_reply (system : String) (earlier : List Query) (query : Query) :
    model.capability system earlier query = reply query.prompt := by
  have text : Part.joined [.text (extract ("\n".intercalate [query.prompt]))] =
      extract query.prompt := by
    rw [String.intercalate_singleton]
    exact String.intercalate_singleton
  rw [ChatModel.capability_eq]
  show (if (Part.joined _).isEmpty then _ else _) = _
  have asked : (ChatModel.request system query).messages.map Message.text = [query.prompt] := rfl
  rw [asked, text]
  rfl

theorem reply_of_bullets_eq_nil {prompt : String} (none : bullets prompt = []) :
    reply prompt = .error (.of "No text in summarization response") := by
  rw [reply, extract, none]
  rfl

theorem reply_of_bullets_ne_nil {prompt : String} (plain : NoReturn prompt)
    (some : bullets prompt ≠ []) : reply prompt = .ok (extract prompt) := by
  rw [reply, if_neg]
  rwa [String.isEmpty_iff, extract_eq_empty_iff plain]

/-- The lines of a summary of some segments: the bullets of each in order, behind those that every
merge of two summaries has brought along. -/
def digest (segments : List (List Message)) : List String :=
  (List.replicate (segments.length - 1) mergeBullets).flatten ++
    segments.flatMap fun segment => bullets (Message.render segment)

/-- The summary itself, unless there are no segments. -/
def digest? : List (List Message) → Option String
  | [] => none
  | segments => some ("\n".intercalate (digest segments))

theorem digest?_of_ne_nil {segments : List (List Message)} (h : segments ≠ []) :
    digest? segments = some ("\n".intercalate (digest segments)) := by
  cases segments with
  | nil => exact absurd rfl h
  | cons => rfl

theorem digest_singleton (segment : List Message) :
    digest [segment] = bullets (Message.render segment) := by
  simp [digest]

theorem digest_append_singleton {segments : List (List Message)} (h : segments ≠ [])
    (segment : List Message) :
    digest (segments ++ [segment]) =
      mergeBullets ++ digest segments ++ bullets (Message.render segment) := by
  obtain ⟨count, length⟩ := Nat.exists_eq_succ_of_ne_zero (mt List.length_eq_zero_iff.mp h)
  simp [digest, length, List.replicate_succ]

example : digest [[.user "a", .assistant "b\n- - c"], [⟨.other "critic", .plain "d: e"⟩]] =
    mergeBullets ++ ["- 用户: a", "- 助手: b", "- c", "- Critic: d: e"] := by
  decide +kernel

theorem isBullet_of_mem_mergeBullets : ∀ line ∈ mergeBullets, IsBullet line := by
  have copied : bullets ("\n".intercalate mergeBullets) = mergeBullets := by decide +kernel
  intro line member
  rw [← copied] at member
  exact isBullet_of_mem_bullets (by decide +kernel) member

theorem isBullet_of_mem_digest {segments : List (List Message)}
    (plain : ∀ segment ∈ segments, ∀ message ∈ segment, message.NoReturn) :
    ∀ line ∈ digest segments, IsBullet line := by
  intro line member
  rcases List.mem_append.mp member with merging | own
  · obtain ⟨copy, replicated, member⟩ := List.mem_flatten.mp merging
    rw [List.eq_of_mem_replicate replicated] at member
    exact isBullet_of_mem_mergeBullets line member
  · obtain ⟨segment, inside, member⟩ := List.mem_flatMap.mp own
    exact isBullet_of_mem_bullets (Message.noReturn_render (plain segment inside)) member

end Extractive

/-! ## One round -/

/-- The capability of that name copies. -/
def Backend.Copies (backend : Backend) (name : String) : Prop :=
  ∀ earlier call, call.capability = name → backend earlier call = reply call.query.prompt

theorem Backend.copies_ofCapabilities {directory : String → Capability} {name system : String}
    (h : directory name = model.capability system) : (ofCapabilities directory).Copies name := by
  rintro earlier call rfl
  rw [ofCapabilities, h, capability_eq_reply]

/-- So it is a chat model. -/
theorem Backend.Copies.chats {backend : Backend} {name : String} (h : backend.Copies name) :
    backend.Chats name := by
  refine ⟨model, "", fun _ => model.chat [], fun earlier call own => ?_⟩
  rw [h earlier call own, ← capability_eq_reply "" []]
  rfl

/-- A merge by copying puts the bullets of both summaries behind its own. -/
theorem Merger.text_merge_of_copies {merger : Merger} {backend : Backend} {name : String}
    (given : merger.capability = some name) (copies : backend.Copies name) (earlier : List Call)
    {older : Option String} {newer : String} (before : ∀ text, older = some text → NoReturn text)
    (after : NoReturn newer) :
    ((merger.merge older newer).run backend earlier).1.text =
      older.elim newer fun text =>
        "\n".intercalate (mergeBullets ++ bullets text ++ bullets newer) := by
  cases older with
  | none => rfl
  | some older =>
    obtain ⟨plain, split⟩ := mergeRequest_spec (before older rfl) after
    have some : bullets (Wording.mergeRequest older newer) ≠ [] := by
      rw [split]
      exact List.cons_ne_nil _ _
    have answer : backend earlier ⟨name, merger.query older newer⟩ =
        .ok (extract (Wording.mergeRequest older newer)) :=
      (copies _ _ rfl).trans (reply_of_bullets_ne_nil plain some)
    rw [merge_of_capability given, Dialogue.run_ask, answer]
    dsimp only [Dialogue.run_done, settle, Merged.text, Option.elim_some]
    rw [extract, split]

namespace Cut

variable {backend : Backend} {cut : Cut} {cuts : List Cut} {name : String}

/-- The segments that were compacted, in order. -/
def compacted (cuts : List Cut) : List (List Message) :=
  (cuts.filter fun cut => cut.outcome.kind?.isSome).map segment

/-- Both the summarizer and the merger are the capability of that name. -/
structure UsesOnly (cut : Cut) (name : String) : Prop where
  summarizer : cut.setup.summarizer = some name
  merger : cut.setup.merger = none

/-- A cut ends truncated if it leaves no summary. -/
theorem exists_truncated_iff :
    (∃ count shortfall, cut.outcome = .truncated count shortfall) ↔ cut.outcome.kind? = none := by
  unfold outcome
  cases cut.round with
  | summarized merged =>
    refine iff_of_false ?_ (Option.some_ne_none _)
    rintro ⟨count, shortfall, same⟩
    cases same
  | truncated shortfall => exact iff_of_true ⟨_, shortfall, rfl⟩ rfl

theorem UsesOnly.answer (uses : cut.UsesOnly name) (copies : backend.Copies name) :
    cut.setup.summarizer = some name ∧
      backend cut.earlier (cut.setup.summaryCall name cut.segment) =
        reply (Wording.summaryRequest cut.segment) :=
  ⟨uses.summarizer, copies _ _ rfl⟩

/-- A round leaves no summary if its segment has no bullets. -/
theorem Genuine.summary?_of_silent (genuine : cut.Genuine backend) (copies : backend.Copies name)
    (uses : cut.UsesOnly name) (plain : ∀ message ∈ cut.segment, message.NoReturn)
    (silent : bullets (Message.render cut.segment) = []) : cut.round.summary? = none := by
  obtain ⟨given, answer⟩ := uses.answer copies
  rw [reply_of_bullets_eq_nil ((Message.summaryRequest_spec plain).2.trans silent)] at answer
  unfold Genuine at genuine
  rw [Setup.run_condense_of_failure given answer] at genuine
  rw [← (Prod.mk.inj genuine).1]
  rfl

/-- Else it puts them behind the bullets of the summary that stands, and those of the request to
merge in front. -/
theorem Genuine.summary?_of_spoken (genuine : cut.Genuine backend) (copies : backend.Copies name)
    (uses : cut.UsesOnly name) (plain : ∀ message ∈ cut.segment, message.NoReturn)
    (older : ∀ text, Condenser.standing cut.previous = some text → NoReturn text)
    (spoken : bullets (Message.render cut.segment) ≠ []) :
    cut.round.summary? = some ("\n".intercalate ((Condenser.standing cut.previous).elim
      (bullets (Message.render cut.segment))
      fun text => mergeBullets ++ bullets text ++ bullets (Message.render cut.segment))) := by
  obtain ⟨given, answer⟩ := uses.answer copies
  obtain ⟨prompt, asked⟩ := Message.summaryRequest_spec plain
  have lines : ∀ line ∈ bullets (Message.render cut.segment), IsBullet line :=
    fun _ => isBullet_of_mem_bullets (Message.noReturn_render plain)
  rw [reply_of_bullets_ne_nil prompt (asked.symm ▸ spoken), extract, asked] at answer
  have merger : cut.setup.condenser.effectiveMerger.capability = some name := by
    rw [Setup.effectiveMerger_condenser, uses.merger, given]
    rfl
  have merged := Merger.text_merge_of_copies merger copies
    (cut.earlier ++ [cut.setup.summaryCall name cut.segment]) older (noReturn_of_isBullet lines)
  rw [bullets_of_isBullet lines] at merged
  unfold Genuine at genuine
  rw [Setup.run_condense_of_answer given answer] at genuine
  rw [← (Prod.mk.inj genuine).1, Round.summary?, merged]
  cases Condenser.standing cut.previous <;> rfl

theorem UsesOnly.chats (uses : cut.UsesOnly name) (copies : backend.Copies name) :
    cut.setup.Chats backend where
  summarizer given own := by
    rw [uses.summarizer] at own
    cases own
    exact copies.chats
  merger given own := by
    rw [uses.merger] at own
    cases own

theorem compacted_append_singleton (cuts : List Cut) (last : Cut) :
    compacted (cuts ++ [last]) =
      compacted cuts ++ if last.outcome.kind?.isSome then [last.segment] else [] := by
  unfold compacted
  rw [List.filter_append, List.map_append]
  by_cases kept : last.outcome.kind?.isSome <;> simp [kept]

theorem mem_compacted {segment : List Message} (h : segment ∈ compacted cuts) :
    ∃ cut ∈ cuts, cut.segment = segment := by
  obtain ⟨cut, member, own⟩ := List.mem_map.mp h
  exact ⟨cut, (List.mem_filter.mp member).1, own⟩

/-- Cuts in order, from no summary on, with only a copying capability and no carriage returns. -/
structure Copied (backend : Backend) (name : String) (cuts : List Cut) : Prop where
  copies : backend.Copies name
  genuine : ∀ cut ∈ cuts, cut.Genuine backend
  uses : ∀ cut ∈ cuts, cut.UsesOnly name
  plain : ∀ cut ∈ cuts, ∀ message ∈ cut.segment, message.NoReturn
  previous : ∀ front cut back, cuts = front ++ cut :: back →
    cut.previous = summaryAfter none front

namespace Copied

theorem left {front back : List Cut} (c : Copied backend name (front ++ back)) :
    Copied backend name front where
  copies := c.copies
  genuine cut member := c.genuine cut (List.mem_append_left _ member)
  uses cut member := c.uses cut (List.mem_append_left _ member)
  plain cut member := c.plain cut (List.mem_append_left _ member)
  previous before cut after split :=
    c.previous before cut (after ++ back) (by rw [split, List.append_assoc, List.cons_append])

theorem isBullet (c : Copied backend name cuts) :
    ∀ line ∈ digest (compacted cuts), IsBullet line := by
  refine isBullet_of_mem_digest fun segment member => ?_
  obtain ⟨cut, inside, rfl⟩ := mem_compacted member
  exact c.plain cut inside

theorem noReturn (c : Copied backend name cuts) {text : String}
    (h : digest? (compacted cuts) = some text) : NoReturn text := by
  by_cases some : compacted cuts = []
  · rw [some] at h
    cases h
  · rw [digest?_of_ne_nil some] at h
    cases h
    exact noReturn_of_isBullet c.isBullet

theorem summaryAfter_ne_empty (c : Copied backend name cuts) : summaryAfter none cuts ≠ some "" :=
  Cut.summaryAfter_ne_empty (Option.some_ne_none "").symm fun cut member =>
    (c.genuine cut member).summary?_ne_empty ((c.uses cut member).chats c.copies)

/-- What a round finds stands. -/
theorem standing_eq {front back : List Cut} {cut : Cut}
    (c : Copied backend name (front ++ cut :: back)) :
    Condenser.standing cut.previous = summaryAfter none front := by
  rw [c.previous front cut back rfl, Condenser.standing_eq_self c.left.summaryAfter_ne_empty]

/-- The summary after the cuts is the digest of the segments that were compacted. -/
theorem summaryAfter_eq (c : Copied backend name cuts) :
    summaryAfter none cuts = digest? (compacted cuts) := by
  induction cuts using List.reverseRecOn with
  | nil => rfl
  | append_singleton cuts last ih =>
    have before := ih c.left
    have member : last ∈ cuts ++ [last] := List.mem_append_right _ (List.mem_singleton_self _)
    have stands := c.standing_eq.trans before
    rw [summaryAfter_append_singleton, before, compacted_append_singleton]
    by_cases silent : bullets (Message.render last.segment) = []
    · have own := (c.genuine last member).summary?_of_silent c.copies (c.uses last member)
        (c.plain last member) silent
      rw [own, kind?_outcome_eq_none_iff.mpr own]
      simp
    · have own := (c.genuine last member).summary?_of_spoken c.copies (c.uses last member)
        (c.plain last member) (fun text given => c.left.noReturn (stands.symm.trans given)) silent
      have kind : last.outcome.kind?.isSome = true := by
        rw [Option.isSome_iff_ne_none, ne_eq, kind?_outcome_eq_none_iff, own]
        exact Option.some_ne_none _
      rw [own, if_pos kind, Option.some_or, digest?_of_ne_nil (by simp), stands]
      by_cases first : compacted cuts = []
      · rw [first, List.nil_append, digest_singleton]
        rfl
      · rw [digest?_of_ne_nil first, Option.elim_some, bullets_of_isBullet c.left.isBullet,
          digest_append_singleton first]

/-- A cut leaves nothing exactly if nothing is said in its segment. -/
theorem kind?_eq_none_iff (c : Copied backend name cuts) {cut : Cut} (member : cut ∈ cuts) :
    cut.outcome.kind? = none ↔ ∀ message ∈ cut.segment, message.isSilent = true := by
  have plain := c.plain cut member
  rw [kind?_outcome_eq_none_iff, ← Message.bullets_render_eq_nil_iff plain]
  constructor
  · intro none
    by_contra spoken
    obtain ⟨front, back, rfl⟩ := List.append_of_mem member
    have older (text : String) (given : Condenser.standing cut.previous = some text) :
        NoReturn text := by
      rw [c.standing_eq, c.left.summaryAfter_eq] at given
      exact c.left.noReturn given
    have own := (c.genuine cut member).summary?_of_spoken c.copies (c.uses cut member) plain older
      spoken
    rw [none] at own
    cases own
  · exact (c.genuine cut member).summary?_of_silent c.copies (c.uses cut member) plain

end Copied

end Cut

/-! ## Messages of one kind -/

namespace Shared

variable {P : Message → Prop} {setup : Setup} {backend : Backend} {s s' : Shared} {event : Event}
  {deed : Option Deed}

/-- All messages that are live, or that may still join, are of one kind. -/
structure Only (P : Message → Prop) (s : Shared) : Prop where
  live : ∀ message ∈ s.contents.live, P message
  waiting : ∀ ticket batch, s.phases ticket = .waiting batch → ∀ message ∈ batch, P message
  holding : ∀ ticket batch, s.phases ticket = .holding batch → ∀ message ∈ batch, P message

/-- The append goes on to a phase whose messages, if any, are of the same kind. -/
theorem Only.update (o : Only P s) (ticket : Ticket)
    (others : ∀ t, t ≠ ticket → s'.phases t = s.phases t)
    (live : ∀ message ∈ s'.contents.live, P message)
    (own : ∀ batch, s'.phases ticket = .waiting batch ∨ s'.phases ticket = .holding batch →
      ∀ message ∈ batch, P message) : Only P s' where
  live := live
  waiting t batch h := by
    by_cases same : t = ticket
    · exact own batch (.inl (same ▸ h))
    · exact o.waiting t batch ((others t same).symm.trans h)
  holding t batch h := by
    by_cases same : t = ticket
    · exact own batch (.inr (same ▸ h))
    · exact o.holding t batch ((others t same).symm.trans h)

theorem Only.transition (o : Only P s) (h : Transition setup backend s event deed s')
    (submitted : ∀ ticket batch, event = .submit ticket batch → ∀ message ∈ batch, P message) :
    Only P s' := by
  have others : ∀ t, t ≠ event.ticket → s'.phases t = s.phases t := fun t => h.phases_of_ne
  cases h with
  | nothing => exact o
  | @queued ticket batch =>
    refine o.update ticket others o.live fun other own => ?_
    rw [phases_withPhase_self] at own
    obtain rfl : batch = other := by simpa using own
    exact submitted ticket batch rfl
  | @entered ticket batch _ h =>
    refine o.update ticket others o.live fun other own => ?_
    rw [phases_withPhase_self] at own
    obtain rfl : batch = other := by simpa using own
    exact o.waiting ticket batch h
  | @passed ticket batch h =>
    refine o.update ticket others (List.forall_mem_append.mpr ⟨o.live, o.holding ticket batch h⟩)
      fun other own => ?_
    rw [finish, phases_withPhase_self] at own
    simp at own
  | @joined ticket batch _ h =>
    refine o.update ticket others (List.forall_mem_append.mpr ⟨o.live, o.holding ticket batch h⟩)
      fun other own => ?_
    rw [phases_withPhase_self] at own
    simp at own
  | @committed ticket segment =>
    have live (message : Message) (rest : message ∈ s.contents.live.drop segment.length) :
        P message := o.live message (List.mem_of_mem_drop rest)
    refine o.update ticket others live fun other own => ?_
    rw [commit, finish, phases_withPhase_self] at own
    simp at own
  | @asked ticket | @answered ticket | @unqueued ticket | @dropped ticket =>
    refine o.update ticket others o.live fun other own => ?_
    simp [ask, hear] at own

end Shared

namespace Lifetime

open Shared

variable {P : Message → Prop} {backend : Backend} {first : Lifetime} {past : List Occurrence}
  {cuts : List Cut} {name : String}

/-- If all messages at first and all that are submitted are of one kind, there are no others. -/
theorem only_run (o : Only P first.shared) (g : Guarded first.setup first.shared)
    (submitted : ∀ ticket batch, .event (.submit ticket batch) ∈ past →
      ∀ message ∈ batch, P message) : Only P (first.run backend past).shared := by
  refine run_induction (fun past => Only P (first.run backend past).shared) g backend o ?_
  intro past occurrence member _ o h
  generalize first.run backend (past ++ [occurrence]) = y at h
  cases h with
  | refused | chosen => exact o
  | event h =>
    refine o.transition h ?_
    rintro ticket batch rfl
    exact submitted ticket batch member

/-- Without choices the setup stays. -/
theorem setup_run_of_kept (x : Lifetime) (kept : ∀ choice, .choice choice ∉ past) :
    (x.run backend past).setup = x.setup := by
  have none : x.chosen backend past = [] := by
    induction past generalizing x with
    | nil => rfl
    | cons occurrence past ih =>
      cases occurrence with
      | choice choice => exact absurd List.mem_cons_self (kept choice)
      | event event =>
        exact ih (x.apply backend (.event event)) fun choice later =>
          kept choice (List.mem_cons_of_mem _ later)
  rw [setup_run, none]
  rfl

/-! ## Whole lives -/

/-- `cuts` are the cuts of a life, and the summary has the turns of all of them. -/
structure Extracted (backend : Backend) (first : Lifetime) (past : List Occurrence)
    (cuts : List Cut) : Prop where
  /-- There is one for each commit, and so one for each append that is finished and not a noop. -/
  commits : first.sheds backend past = cuts.map fun cut => (cut.ticket, cut.segment)
  once : ∀ ticket, (cuts.countP fun cut => cut.ticket = ticket) =
    ((first.run backend past).shared.phases ticket).cuts
  finished : ∀ cut ∈ cuts, (first.run backend past).shared.phases cut.ticket = .finished cut.outcome
  /-- A segment is dropped without a summary exactly if nothing is said in it. -/
  truncated_iff : ∀ cut ∈ cuts, (∃ count shortfall, cut.outcome = .truncated count shortfall) ↔
    ∀ message ∈ cut.segment, message.text = ""
  unsummarized : Cut.compacted cuts = [] → (first.run backend past).shared.contents.summary = none
  /-- The lines of the summary are those of the merges, one less than there were rounds, and then
  the bullets of each conversation in order. -/
  lines : Cut.compacted cuts ≠ [] →
    ∃ summary, (first.run backend past).shared.contents.summary = some summary ∧
      Text.lines summary =
        (List.replicate ((Cut.compacted cuts).length - 1) mergeBullets).flatten ++
          (Cut.compacted cuts).flatMap fun segment => bullets (Message.render segment)

theorem Ledger.copied {base : List Call} (l : Ledger backend first past cuts base)
    (copies : backend.Copies name) (summarizer : first.setup.summarizer = some name)
    (merger : first.setup.merger = none) (plain : first.shared.contents.summary = none)
    (kept : ∀ choice, .choice choice ∉ past) (o : Only Message.NoReturn first.shared)
    (g : Guarded first.setup first.shared)
    (submitted : ∀ ticket batch, .event (.submit ticket batch) ∈ past →
      ∀ message ∈ batch, message.NoReturn) : Cut.Copied backend name cuts where
  copies := copies
  genuine := l.genuine
  uses cut member := by
    obtain ⟨before, occurrence, after, rfl, -, setup, -⟩ := l.made cut member
    rw [setup_run_of_kept first fun choice member => kept choice (List.mem_append_left _ member)]
      at setup
    exact ⟨setup ▸ summarizer, setup ▸ merger⟩
  plain cut member message inside := by
    obtain ⟨before, occurrence, after, rfl, -, -, live⟩ := l.made cut member
    have only : Only Message.NoReturn (first.run backend before).shared :=
      only_run o g fun ticket batch member =>
        submitted ticket batch (List.mem_append_left _ member)
    refine only.live message ?_
    rw [live]
    exact List.mem_append_left _ inside
  previous := by
    rw [← plain]
    exact l.previous

/-- As long as there are no carriage returns, in a history without a summary whose only capability
copies, no turn is ever lost: a segment is dropped only if nothing is said in it, and the summary
consists of the bullets of all others, once each and in order, behind those that the merges have
brought along. -/
theorem run_extracted {directory : String → Capability} {name system : String}
    (copies : directory name = Extractive.model.capability system) {setup : Setup}
    (summarizer : setup.summarizer = some name) (merger : setup.merger = none)
    {contents : Contents} (plain : contents.summary = none)
    (live : ∀ message ∈ contents.live, message.NoReturn) (earlier : List Call)
    {past : List Occurrence} (kept : ∀ choice, .choice choice ∉ past)
    (submitted : ∀ ticket batch, .event (.submit ticket batch) ∈ past →
      ∀ message ∈ batch, message.NoReturn) :
    ∃ cuts, Extracted (.ofCapabilities directory) (start setup contents earlier) past cuts := by
  obtain ⟨cuts, base, l⟩ := ledger_run (.ofCapabilities directory) setup contents earlier past
  have o : Only Message.NoReturn (start setup contents earlier).shared :=
    ⟨live, fun _ _ h => Phase.noConfusion h, fun _ _ h => Phase.noConfusion h⟩
  have c := l.copied (Backend.copies_ofCapabilities copies) summarizer merger plain kept o
    (.start setup contents earlier) submitted
  have summary := l.summary
  rw [show (start setup contents earlier).shared.contents.summary = none from plain,
    c.summaryAfter_eq] at summary
  refine ⟨cuts, l.sheds, l.once, l.finished, fun cut member => ?_, fun none => ?_,
    fun some => ⟨_, ?_, lines_of_isBullet c.isBullet⟩⟩
  · rw [Cut.exists_truncated_iff, c.kind?_eq_none_iff member]
    exact forall₂_congr fun message _ => String.isEmpty_iff
  · rw [summary, none]
    rfl
  · rw [summary, digest?_of_ne_nil some]
    rfl

/-- An append by itself, with enough steps for two questions. -/
def dictate (ticket : Ticket) (batch : List Message) : List Occurrence :=
  (Event.submit ticket batch :: List.replicate 7 (.step ticket)).map .event

/-- Three appends that shed: nothing is said in what goes first, and at the third two summaries are
merged. -/
def dictating : List Occurrence :=
  dictate 0 [.assistant "", .user "a"] ++ dictate 1 [.assistant "b\n- - c", .user "d"] ++
    dictate 2 [⟨.other "critic", .plain "e: f"⟩, .user "g"]

theorem run_extracted_dictating :
    ∃ cuts, Extracted (.ofCapabilities fun _ => Extractive.model.capability summarizerPrompt)
      (start .narrow (.ofMessages [.user ""]) []) dictating cuts := by
  refine run_extracted rfl rfl rfl rfl (by decide) [] (by simp [dictating, dictate])
    fun ticket batch member => ?_
  simp only [dictating, dictate, List.map_cons, List.map_replicate, List.mem_append, List.mem_cons,
    List.mem_replicate, Occurrence.event.injEq, Event.submit.injEq, reduceCtorEq, and_false,
    or_false] at member
  rcases member with (⟨-, rfl⟩ | ⟨-, rfl⟩) | ⟨-, rfl⟩ <;> decide

end Lifetime

end RollingHistory
