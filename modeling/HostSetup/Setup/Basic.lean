import HostSetup.Execution.Basic
import HostSetup.NameMap
import HostSetup.Plan.Registry

/-!
A setup: what is to be done in which phase, and with which tools.
-/
namespace HostSetup

namespace Setup

def defaultPython : String := "python3"

def defaultReadies : String := "deps/readies"

def defaultAurHelper : String := "yay"

end Setup

structure Setup where
  phases : NameMap (List Action) := .empty
  overrides : List PackageOverride := []
  python : String := Setup.defaultPython
  readies : String := Setup.defaultReadies
  aurHelper : String := Setup.defaultAurHelper
  /-- Refresh the repository data before all else. -/
  refresh : Bool := true
  continueOnError : Bool := false
  timeoutSecs : Option UInt64 := none
  deriving DecidableEq, Repr, Inhabited

namespace Setup

/-- At the end of a phase. -/
def add (phase : String) (a : Action) (c : Setup) : Setup :=
  { c with phases := c.phases.insert phase ((c.phases.get? phase).getD [] ++ [a]) }

def setPhase (phase : String) (actions : List Action) (c : Setup) : Setup :=
  { c with phases := c.phases.insert phase actions }

def addOverride (o : PackageOverride) (c : Setup) : Setup := { c with overrides := c.overrides ++ [o] }

/-- The phases in the order of their names, the refresh before all of them. -/
def registry (c : Setup) : Registry :=
  c.phases.entries.foldl (fun r entry => r.registerAll entry.1 entry.2)
    (if c.refresh then ({} : Registry).register Slot.commonFirst.name .refresh else {})

def translator (c : Setup) : Translator where
  python := c.python
  readies := c.readies
  aurHelper := c.aurHelper
  overrides := .ofList c.overrides

def executionOptions (c : Setup) : ExecutionOptions where
  continueOnError := c.continueOnError
  timeout := c.timeoutSecs.map fun secs => .ofSeconds secs.toNat

end Setup
end HostSetup
