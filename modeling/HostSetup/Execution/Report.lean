import HostSetup.Plan.Basic

/-!
How the actions of a plan ended.
-/
namespace HostSetup

/-- The end of an action, with its command if it has one. -/
structure Ending where
  command : Option String
  outcome : Outcome
  detail : Option String
  deriving DecidableEq, Repr, Inhabited

structure StepResult where
  phase : String
  action : Action
  ending : Ending
  deriving DecidableEq, Repr, Inhabited

def StepResult.isFailed (r : StepResult) : Bool := r.ending.outcome = .failed

/-- A halted run ends with the failure that halted it. -/
structure Report where
  results : List StepResult
  halted : Bool
  deriving DecidableEq, Repr, Inhabited

namespace Report

def hasFailures (r : Report) : Bool := r.results.any (·.isFailed)

def firstFailure (r : Report) : Option StepResult := r.results.find? (·.isFailed)

def count (o : Outcome) (r : Report) : Nat := r.results.countP (·.ending.outcome = o)

def exitCode (r : Report) : Nat := if r.hasFailures then 1 else 0

end Report
end HostSetup
