import HostSetup.Plan.Basic
import HostSetup.Translator

/-!
The programs that a plan starts on a host.
-/
namespace HostSetup

/-- The program that an action starts, whether or not it has a command. Rights that are asked for
first are not counted. -/
def Action.program? (t : Translator) (p : Platform) (a : Action) : Option String :=
  match a.kind with
  | .install => if a.options.fromAur ∧ p.family = .arch then some t.aurHelper else t.packageManager? p.family
  | .refresh => t.packageManager? p.family
  | .pipInstall => some t.python
  | .run => some "sh"

namespace Plan

/-- Puts a name into an ascending list, once. -/
def addName (name : String) : List String → List String
  | [] => [name]
  | other :: rest =>
    if name = other then other :: rest
    else if name < other then name :: other :: rest
    else other :: addName name rest

theorem mem_addName {name other : String} {names : List String} :
    other ∈ addName name names ↔ other = name ∨ other ∈ names := by
  induction names with
  | nil => simp [addName]
  | cons head rest ih =>
    simp only [addName]
    split
    · rename_i eq
      simp [eq]
    · split
      · simp
      · simp only [List.mem_cons, ih]
        exact or_left_comm

/-- In ascending order, each once. Actions that do not apply to the host start nothing. -/
def programs (p : Platform) (t : Translator) (plan : Plan) : List String :=
  ((plan.steps.map (·.2)).filter (·.appliesTo p)).foldl
    (fun names a => (a.program? t p).elim names fun name => addName name names) []

/-- The programs that the host does not have. -/
def missing (p : Platform) (t : Translator) (has : String → Bool) (plan : Plan) : List String :=
  (plan.programs p t).filter fun name => !has name

end Plan
end HostSetup
