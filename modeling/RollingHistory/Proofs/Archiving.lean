import RollingHistory.Archive
import RollingHistory.History.Journal
import RollingHistory.Proofs.Restoration
import RollingHistory.Proofs.Shedding

/-!
A history that has nothing to shed is an archive.

Both keep messages behind the same interface, `MessageStore`. As long as a history may not be cut,
or does not get longer than its limit, it lists and counts what an archive does that gets the same
messages; it asks nobody, and its counters stay. `Mirrors` is the relation between the two that
every batch keeps. What an archive writes, a history reads, and is then the one that starts with the
messages of the archive. Both are put together in `refines_archive`.
-/

namespace RollingHistory

/-! ## The interface -/

/-- What keeps the messages of a conversation: they are added, listed and written as JSON. -/
structure MessageStore (σ : Type) where
  add : σ → List Message → σ
  list : σ → List Message
  encode : σ → Json

namespace MessageStore

variable {σ : Type}

/-- The number of messages that are listed. -/
def count (store : MessageStore σ) (state : σ) : Nat := (store.list state).length

/-- The batches are added in order. -/
def addAll (store : MessageStore σ) (state : σ) (batches : List (List Message)) : σ :=
  batches.foldl store.add state

end MessageStore

/-- An archive lists all it ever got. -/
def Archive.store : MessageStore Archive := ⟨Archive.add, Archive.messages, Archive.encode⟩

/-- A history appends what it gets, and keeps a journal of that. -/
def Setup.store (setup : Setup) (backend : Backend) : MessageStore Journal where
  add := Journal.append setup backend
  list j := j.contents.list
  encode j := History.toJson ⟨setup, j.contents⟩

/-! ## Nothing to shed -/

/-- A history has the messages of an archive and nothing before them, and since `first` there was
no call, no record and no cut. -/
structure Mirrors (first j : Journal) (archive : Archive) : Prop where
  live : j.contents.live = archive.messages
  summary : j.contents.summary = none
  tally : j.contents.tally = first.contents.tally
  calls : j.calls = first.calls
  records : j.records = first.records

namespace Mirrors

variable {setup : Setup} {first j : Journal} {archive : Archive}

theorem list (m : Mirrors first j archive) : j.contents.list = archive.messages := by
  rw [Contents.list, Contents.carrier, m.summary, m.live]
  rfl

/-- A batch that does not make the history too long only joins. -/
theorem append (m : Mirrors first j archive) {batch : List Message}
    (fits : setup.settings.enabled = true →
      archive.messages.length + batch.length ≤ setup.settings.limit.toNat) (backend : Backend) :
    Mirrors first (j.append setup backend batch) (archive.add batch) := by
  have whole : setup.excess? (j.contents.extend batch) = none := by
    rw [Setup.excess?_eq_none_iff, Contents.live_extend, List.length_append, m.live]
    exact fits
  have appended := Setup.append_of_excess_none whole backend j.calls
  have live : j.contents.live ++ batch = archive.messages ++ batch := by rw [m.live]
  unfold Journal.append
  rw [appended]
  dsimp only
  rw [List.append_nil, List.append_nil]
  exact ⟨live, m.summary, m.tally, m.calls, m.records⟩

/-- Batches that do not make the history too long altogether only join one after the other. -/
theorem addAll (m : Mirrors first j archive) {batches : List (List Message)}
    (fits : setup.settings.enabled = true →
      archive.messages.length + batches.flatten.length ≤ setup.settings.limit.toNat)
    (backend : Backend) :
    Mirrors first ((setup.store backend).addAll j batches)
      (Archive.store.addAll archive batches) := by
  induction batches generalizing j archive with
  | nil => exact m
  | cons batch batches ih =>
    rw [List.flatten_cons, List.length_append] at fits
    have next : Mirrors first (j.append setup backend batch) (archive.add batch) :=
      m.append (fun enabled => by have := fits enabled; omega) backend
    refine ih next fun enabled => ?_
    have total := fits enabled
    show (archive.messages ++ batch).length + batches.flatten.length ≤ _
    rw [List.length_append]
    omega

end Mirrors

/-! ## Reading an archive -/

/-- What an archive writes is a snapshot that holds its messages and nothing else. -/
theorem Snapshot.decode_encode_archive (archive : Archive) :
    decode archive.encode =
      .ok ⟨.ofMessages (archive.messages.map Message.normalize), none, none⟩ := by
  have messages := Decode.each_map Message.decode_encode archive.messages
  simp [decode, Archive.encode, otherMessages?, Decode.list, Decode.member?, Decode.required,
    List.lookup_cons, messages, Contents.ofMessages, Tally.zero, bind, pure, Except.bind,
    Except.pure, Functor.map, Except.map]

/-- A history that reads it starts with these messages, under the settings of the reader. -/
theorem History.ofJson_archive {archive : Archive} {own : Settings} (valid : own.Valid)
    (roles : ∀ message ∈ archive.messages, ∀ name ∈ Role.names, message.role ≠ .other name) :
    ofJson archive.encode own =
      .ok ⟨{ settings := own, valid }, .ofMessages archive.messages⟩ := by
  have loaded : Snapshot.load archive.encode =
      .ok ⟨.ofMessages archive.messages, none, none⟩ := by
    rw [Snapshot.load, Snapshot.decode_encode_archive, Message.map_normalize_eq_self roles]
    rfl
  unfold ofJson
  rw [loaded]
  show restore ⟨.ofMessages archive.messages, none, none⟩ own = _
  unfold restore
  rw [show Snapshot.settings ⟨.ofMessages archive.messages, none, none⟩ own = own from rfl,
    Setup.ofSettings_of_valid valid]
  rfl

/-! ## The refinement -/

/-- A history with no summary that may not be cut, or gets no more messages than its limit, is an
archive to whoever adds and lists: after any number of batches both list the same and count the
same, nobody was asked, and the counters are as they were. And what an archive wrote is read back as
it was; read by a history, under any valid settings, it is the very history that starts with the
messages of the archive, so both go on alike. -/
theorem refines_archive (setup : Setup) (backend : Backend) {contents : Contents}
    (plain : contents.summary = none) (earlier : List Call) {batches : List (List Message)}
    (fits : setup.settings.enabled = true →
      contents.live.length + batches.flatten.length ≤ setup.settings.limit.toNat)
    {archive : Archive}
    (roles : ∀ message ∈ archive.messages, ∀ name ∈ Role.names, message.role ≠ .other name)
    {own : Settings} (valid : own.Valid) :
    (∀ n : Nat,
      let j := (setup.store backend).addAll (.start contents earlier) (batches.take n)
      let a := Archive.store.addAll ⟨contents.live⟩ (batches.take n)
      (setup.store backend).list j = Archive.store.list a ∧
        (setup.store backend).count j = Archive.store.count a ∧
        j.calls = earlier ∧ j.records = [] ∧ j.contents.tally = contents.tally) ∧
    Archive.decode (Archive.store.encode archive) = .ok archive ∧
    ∃ history, History.ofJson (Archive.store.encode archive) own = .ok history ∧
      History.ofMessages own (Archive.store.list archive) = .ok history := by
  refine ⟨fun n => ?_, ?_, _, History.ofJson_archive valid roles, ?_⟩
  · have first : Mirrors (.start contents earlier) (.start contents earlier) ⟨contents.live⟩ :=
      ⟨rfl, plain, rfl, rfl, rfl⟩
    have m : Mirrors (.start contents earlier)
        ((setup.store backend).addAll (.start contents earlier) (batches.take n))
        (Archive.store.addAll ⟨contents.live⟩ (batches.take n)) := by
      refine first.addAll (fun enabled => ?_) backend
      have parts := congrArg (fun batches => batches.flatten.length)
        (List.take_append_drop n batches)
      simp only [List.flatten_append, List.length_append] at parts
      have total := fits enabled
      show contents.live.length + _ ≤ _
      omega
    exact ⟨m.list, congrArg List.length m.list, m.calls, m.records, m.tally⟩
  · show Archive.decode archive.encode = .ok archive
    rw [Archive.decode_encode, Message.map_normalize_eq_self roles]
  · unfold History.ofMessages
    rw [Setup.ofSettings_of_valid valid]
    rfl

/-- A history of one message that has been cut before, and gets no more than a second one. -/
def Journal.paired : Journal :=
  (Setup.narrow.store .numbered).addAll (.start ⟨[.user "a"], none, ⟨3, 7⟩⟩ []) [[], [.user "b"]]

theorem refines_archive_paired :
    ((Setup.narrow.store .numbered).list .paired = [.user "a", .user "b"] ∧
      (Setup.narrow.store .numbered).count .paired = 2 ∧
      Journal.paired.calls = [] ∧ Journal.paired.contents.tally = ⟨3, 7⟩) ∧
    ∃ history, History.ofJson (Archive.store.encode ⟨[⟨.other "User", .plain "a"⟩]⟩)
        Setup.narrow.settings = .ok history ∧
      History.ofMessages Setup.narrow.settings [⟨.other "User", .plain "a"⟩] = .ok history := by
  obtain ⟨alike, -, loaded⟩ := @refines_archive .narrow .numbered
    ⟨[.user "a"], none, ⟨3, 7⟩⟩ rfl [] [[], [.user "b"]] (fun _ => by decide)
    ⟨[⟨.other "User", .plain "a"⟩]⟩ (by decide) _ Setup.narrow.valid
  obtain ⟨list, count, calls, -, tally⟩ := alike 2
  exact ⟨⟨list, count, calls, tally⟩, loaded⟩

end RollingHistory
