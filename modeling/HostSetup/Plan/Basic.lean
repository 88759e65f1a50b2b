import HostSetup.Action.Basic
import HostSetup.Plan.Slot

/-!
Plans: the phases of one host, each with the actions that are to be done in it.
-/
namespace HostSetup

/-- A phase in its slot. A slot that no phase fills has its own name. -/
structure Phase where
  name : String
  slot : Slot
  actions : List Action
  deriving DecidableEq, Repr, Inhabited

def Phase.render (ph : Phase) : String := ph.name ++ " (" ++ toString ph.actions.length ++ " actions)"

structure Plan where
  phases : List Phase
  deriving DecidableEq, Repr, Inhabited

namespace Plan

/-- An action, and the phase it belongs to. -/
abbrev Step := String × Action

/-- The actions in the order in which they are run. -/
def steps (plan : Plan) : List Step := plan.phases.flatMap fun ph => ph.actions.map (ph.name, ·)

/-- A host that is not known, and for which nothing but the common phases is left. -/
def isUnmatched (p : Platform) (plan : Plan) : Bool :=
  (p.family = .other || p.distro.isEmpty) &&
    plan.phases.all fun ph => ph.slot.isCommon || ph.actions.isEmpty

end Plan
end HostSetup
