import HostSetup.Plan.Basic

/-!
The phases of a setup by name, for all hosts together, and the plan they give on one host. An
action is placed once: where a later one has the same normal form, the later one is left out.
-/
namespace HostSetup

/-- Phases in the order of their first actions. -/
structure Registry where
  phases : List (String × List Action) := []
  deriving DecidableEq, Repr, Inhabited

namespace Registry

def append (phase : String) (a : Action) : List (String × List Action) → List (String × List Action)
  | [] => [(phase, [a])]
  | (name, actions) :: rest =>
    if name = phase then (name, actions ++ [a]) :: rest else (name, actions) :: append phase a rest

/-- At the end of a phase, which begins with its first action. -/
def register (phase : String) (a : Action) (r : Registry) : Registry := ⟨append phase a r.phases⟩

def registerAll (phase : String) (actions : List Action) (r : Registry) : Registry :=
  actions.foldl (fun r a => r.register phase a) r

def ofList (steps : List Plan.Step) : Registry :=
  steps.foldl (fun r step => r.register step.1 step.2) {}

def actions (phase : String) (r : Registry) : List Action :=
  ((r.phases.find? (·.1 == phase)).map (·.2)).getD []

def phaseNames (r : Registry) : List String := r.phases.map (·.1)

/-- The actions whose normal forms have not been seen, and all that have been seen then. -/
def keepUnseen (seen : List Action) : List Action → List Action × List Action
  | [] => ([], seen)
  | a :: rest =>
    if a.normalized ∈ seen then keepUnseen seen rest
    else
      let (kept, seen) := keepUnseen (a.normalized :: seen) rest
      (a :: kept, seen)

/-- What was registered for a slot on this host. -/
def candidates (r : Registry) (p : Platform) (slot : Slot) : List Action :=
  ((slot.phaseName? p).map fun name => r.actions name).getD []

def fill (r : Registry) (p : Platform) (seen : List Action) : List Slot → List Phase
  | [] => []
  | slot :: rest =>
    let (kept, seen) := keepUnseen seen (r.candidates p slot)
    ⟨(slot.phaseName? p).getD slot.name, slot, kept⟩ :: fill r p seen rest

/-- One phase for each slot, in their order. -/
def plan (r : Registry) (p : Platform) : Plan := ⟨r.fill p [] Slot.all⟩

end Registry
end HostSetup
