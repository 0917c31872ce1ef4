import RollingHistory.Proofs.Gate
import RollingHistory.Proofs.Interface
import RollingHistory.Proofs.Shedding

/-!
No message is lost.

At every point of every run, the messages that were there at first and the batches that joined are
the segments that went, in order, followed by the live messages (`run_conserved`). The tally counts
just these segments and their messages. It makes no difference how appends overlap, whether
capabilities fail, or which appends are given up where: `Accounted` speaks of no phase, and a
segment goes only by a commit, which by `Guarded` cuts it off the front.
-/

namespace RollingHistory

namespace Tally

/-- One cut after the other. -/
def recordAll (tally : Tally) (segments : List (List Message)) : Tally :=
  segments.foldl (fun tally segment => tally.record segment.length) tally

theorem recordAll_cons (tally : Tally) (segment : List Message) (segments : List (List Message)) :
    tally.recordAll (segment :: segments) = (tally.record segment.length).recordAll segments :=
  rfl

theorem recordAll_append_singleton (tally : Tally) (segments : List (List Message))
    (segment : List Message) :
    tally.recordAll (segments ++ [segment]) = (tally.recordAll segments).record segment.length :=
  List.foldl_append ..

/-- The counters of a tally count the segments and their messages, as far as they reach. -/
theorem recordAll_eq (tally : Tally) (segments : List (List Message)) :
    tally.recordAll segments = ⟨tally.cuts + UInt64.ofNat segments.length,
      tally.removed + UInt64.ofNat segments.flatten.length⟩ := by
  induction segments generalizing tally with
  | nil => simp [recordAll]
  | cons segment segments ih =>
    rw [recordAll_cons, ih, List.flatten_cons, List.length_append, List.length_cons, record,
      Nat.add_comm segments.length, UInt64.ofNat_add, UInt64.ofNat_add, UInt64.add_assoc,
      UInt64.add_assoc]
    rfl

/-- The counters of a tally count the segments and their messages as long as they do not run
over. -/
theorem toNat_recordAll {tally : Tally} {segments : List (List Message)}
    (hc : tally.cuts.toNat + segments.length < UInt64.size)
    (hr : tally.removed.toNat + segments.flatten.length < UInt64.size) :
    (tally.recordAll segments).cuts.toNat = tally.cuts.toNat + segments.length ∧
      (tally.recordAll segments).removed.toNat =
        tally.removed.toNat + segments.flatten.length := by
  unfold UInt64.size at hc hr
  rw [recordAll_eq]
  simp only [UInt64.toNat_add, UInt64.toNat_ofNat']
  omega

end Tally

/-- From `before`, the batches of `joined` came in and the segments of `gone` went, and `after` is
what is left. -/
structure Accounted (before : Contents) (joined gone : List (List Message)) (after : Contents) :
    Prop where
  messages : before.live ++ joined.flatten = gone.flatten ++ after.live
  tally : after.tally = before.tally.recordAll gone

namespace Accounted

variable {before after : Contents} {joined gone : List (List Message)}

theorem refl (before : Contents) : Accounted before [] [] before where
  messages := by rw [List.flatten_nil, List.append_nil, List.nil_append]
  tally := rfl

theorem extend (a : Accounted before joined gone after) (batch : List Message) :
    Accounted before (joined ++ [batch]) gone (after.extend batch) where
  messages := by
    rw [List.flatten_append, List.flatten_singleton, ← List.append_assoc, a.messages,
      Contents.live_extend, List.append_assoc]
  tally := a.tally

/-- A commit keeps the account if it cuts off what stands in front. -/
theorem commit (a : Accounted before joined gone after) {segment : List Message}
    (front : segment ++ after.live.drop segment.length = after.live) (round : Round) :
    Accounted before joined (gone ++ [segment]) (after.commit segment.length round) where
  messages := by
    rw [List.flatten_append, List.flatten_singleton, Contents.live_commit, List.append_assoc,
      front, a.messages]
  tally := by rw [Tally.recordAll_append_singleton, ← a.tally, Contents.tally_commit]

end Accounted

namespace Shared

variable {setup : Setup} {backend : Backend} {s s' : Shared} {event : Event} {deed : Option Deed}
  {before : Contents} {joined gone : List (List Message)}

/-- Every transition keeps the account, whoever makes it. -/
theorem accounted_transition (a : Accounted before joined gone s.contents) (g : Guarded setup s)
    (h : Transition setup backend s event deed s') :
    Accounted before (joined ++ (deed.bind Deed.batch?).toList)
      (gone ++ (deed.bind Deed.segment?).toList) s'.contents := by
  cases h with
  | nothing | queued | entered | asked | answered | unqueued | dropped =>
    simp only [Option.bind_none, Option.bind_some, Deed.batch?, Deed.segment?, Option.toList_none,
      List.append_nil]
    exact a
  | passed | joined =>
    simp only [Option.bind_some, Deed.batch?, Deed.segment?, Option.toList_none, List.append_nil]
    exact a.extend _
  | @committed ticket segment round h =>
    have excess := g.excess ticket segment (by rw [h]; rfl)
    simp only [Option.bind_some, Deed.batch?, Deed.segment?, Option.toList_none, List.append_nil]
    exact a.commit (Setup.excess_append_drop excess) round

theorem accounted_run (setup : Setup) (backend : Backend) (contents : Contents)
    (earlier : List Call) (events : List Event) :
    Accounted contents ((start contents earlier).joined setup backend events)
      ((start contents earlier).segments setup backend events)
      ((start contents earlier).run setup backend events).contents := by
  refine guarded_induction (fun past s => Accounted contents (past.filterMap Deed.batch?)
    (past.filterMap Deed.segment?) s.contents) (.start setup contents earlier) (.refl contents) ?_
  intro past s s' event deed _ g a h
  rw [filterMap_append_deed, filterMap_append_deed]
  exact accounted_transition a g h

/-- At every point of every run, the first messages and the batches that joined since are the
segments shed since and the live messages. The counters have gone up by the number of these
segments, which is that of the commits, and by that of their messages. -/
theorem run_conserved (setup : Setup) (backend : Backend) (contents : Contents)
    (earlier : List Call) (events : List Event)
    (hc : contents.tally.cuts.toNat +
      ((start contents earlier).segments setup backend events).length < UInt64.size)
    (hr : contents.tally.removed.toNat +
      ((start contents earlier).segments setup backend events).flatten.length < UInt64.size) :
    contents.live ++ ((start contents earlier).joined setup backend events).flatten =
        ((start contents earlier).segments setup backend events).flatten ++
          ((start contents earlier).run setup backend events).contents.live ∧
      ((start contents earlier).run setup backend events).contents.tally.cuts.toNat =
        contents.tally.cuts.toNat +
          ((start contents earlier).segments setup backend events).length ∧
      ((start contents earlier).run setup backend events).contents.tally.removed.toNat =
        contents.tally.removed.toNat +
          ((start contents earlier).segments setup backend events).flatten.length := by
  have a := accounted_run setup backend contents earlier events
  obtain ⟨cuts, removed⟩ := Tally.toNat_recordAll hc hr
  refine ⟨a.messages, ?_, ?_⟩
  · rw [a.tally]
    exact cuts
  · rw [a.tally]
    exact removed

/-- One append that joins and is given up before it sheds, and another that sheds what it left. -/
def relay : List Event := [
  .submit 0 [.user "b", .user "c"], .step 0, .step 0, .step 0, .step 0, .cancel 0,
  .submit 1 [.user "d"], .step 1, .step 1, .step 1, .step 1, .step 1]

/-- The contents after it, from a message after three earlier cuts. -/
def relayed : Contents :=
  ((start ⟨[.user "a"], none, ⟨3, 7⟩⟩ []).run .narrow .numbered relay).contents

theorem run_conserved_relay :
    [.user "a", .user "b", .user "c", .user "d"] =
        [.user "a", .user "b", .user "c"] ++ relayed.live ∧
      relayed.tally.cuts.toNat = 3 + 1 ∧ relayed.tally.removed.toNat = 7 + 3 :=
  run_conserved .narrow .numbered ⟨[.user "a"], none, ⟨3, 7⟩⟩ [] relay (by decide) (by decide)

end Shared

end RollingHistory
