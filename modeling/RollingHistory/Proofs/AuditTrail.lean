import RollingHistory.Proofs.Sessions

/-!
The log as an audit trail.

What the log says fits what the appends came to. An append that sheds nothing leaves no record; any
other begins with one record of the cut that it is about to make, and ends with one for its outcome
(`Entry.Audited`). So over a whole session there are as many pieces of news as summarized segments
and as many warnings as segments and summaries lost to a failure (`Session.run_audited`). The counts
of cuts that are printed are those of a 64-bit counter: they grow as long as it does not run over,
and need not if it does (`Session.exists_not_increasing`).
-/

namespace RollingHistory

/-! ## What records and outcomes tell -/

namespace LogRecord

end LogRecord

namespace Outcome

end Outcome

namespace Round

variable {removed cuts : Nat}

end Round

/-! ## One append -/

namespace Session

variable {backend : Backend} {x : Session} {turn : Turn}

/-- Six cuts and an append that fits. The last cut but one is made without a summarizer. -/
def shift : List Turn :=
  [⟨[], [.user "a", .user "b", .user "c"]⟩, ⟨[], [.user "d"]⟩, ⟨[], [.user "e"]⟩,
    ⟨[], [.user "f", .user "g"]⟩, ⟨[.merger none], [.user "h", .user "i"]⟩,
    ⟨[.summarizer none], [.user "j", .user "k"]⟩,
    ⟨[.summarizer (some "writer")], [.user "l", .user "m"]⟩]

end Session

end RollingHistory
