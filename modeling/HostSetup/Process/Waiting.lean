import HostSetup.Duration
import HostSetup.Host.Errno

/-!
Waiting for a process, but not for ever: the process is looked at and then the clock, and after a
pause again. The process comes first, so that an end is seen even when the time is over.
-/
namespace HostSetup

/-- How a process ended: by itself or through a signal. -/
inductive ExitStatus
  | code (value : Int)
  | signal (number : Nat)
  deriving DecidableEq, Repr, Inhabited

namespace ExitStatus

def code? : ExitStatus → Option Int
  | .code value => some value
  | .signal _ => none

def isSuccess (s : ExitStatus) : Bool := s = .code 0

end ExitStatus

namespace Waiting

/-- The pause between two looks. -/
def interval : Duration := .ofMilliseconds 50

/-- One look: what is seen of the process, if it can be seen at all, and the time since the first. -/
structure Look where
  seen : Except IoError (Option ExitStatus)
  elapsed : Duration

inductive Verdict
  | exited (status : ExitStatus) (elapsed : Duration)
  | expired (elapsed : Duration)
  | broken (cause : IoError)
  deriving DecidableEq, Repr

/-- What a look decides, if it decides anything. -/
def Look.verdict? (limit : Duration) (look : Look) : Option Verdict :=
  match look.seen with
  | .error cause => some (.broken cause)
  | .ok (some status) => some (.exited status look.elapsed)
  | .ok none =>
    if limit.nanoseconds ≤ look.elapsed.nanoseconds then some (.expired look.elapsed) else none

/-- The first look that decides something; none if more looks are needed. -/
def verdict? (limit : Duration) (looks : List Look) : Option Verdict :=
  looks.findSome? (·.verdict? limit)

/-- So many looks decide at any rate when the clock gains an interval between two of them. -/
def enough (limit : Duration) : Nat :=
  (limit.nanoseconds + interval.nanoseconds - 1) / interval.nanoseconds + 1

theorem verdict?_cons (limit : Duration) (look : Look) (rest : List Look) :
    verdict? limit (look :: rest) = (look.verdict? limit).or (verdict? limit rest) := by
  cases h : look.verdict? limit <;> simp [verdict?, h]

end Waiting
end HostSetup
