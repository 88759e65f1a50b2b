import HostSetup.Plan.Registry

/-!
Registries by the calls that made them. Under each name a registry holds what was registered under
that name, in the order of the calls, whatever was registered between under other names.
-/
namespace HostSetup

/-- A call that adds to a registry. -/
inductive Registration
  | single (phase : String) (a : Action)
  | several (phase : String) (actions : List Action)
  deriving DecidableEq, Repr

namespace Registration

def steps : Registration → List Plan.Step
  | .single phase a => [(phase, a)]
  | .several phase actions => actions.map (phase, ·)

def apply (r : Registry) : Registration → Registry
  | .single phase a => r.register phase a
  | .several phase actions => r.registerAll phase actions

/-- What the calls register under a name. -/
def under (name : String) (calls : List Registration) : List Action :=
  ((calls.flatMap steps).filter (·.1 = name)).map (·.2)

theorem apply_eq_foldl (r : Registry) (call : Registration) :
    apply r call = call.steps.foldl (fun r step => r.register step.1 step.2) r := by
  cases call with
  | single phase a => rfl
  | several phase actions =>
    rw [steps, List.foldl_map]
    rfl

end Registration

namespace Registry

def ofCalls (calls : List Registration) : Registry := calls.foldl Registration.apply {}

theorem actions_append (phase name : String) (a : Action) (phases : List (String × List Action)) :
    actions name ⟨append phase a phases⟩ =
      if phase = name then actions name ⟨phases⟩ ++ [a] else actions name ⟨phases⟩ := by
  induction phases with
  | nil => by_cases same : phase = name <;> simp [append, actions, same]
  | cons head rest ih =>
    obtain ⟨other, held⟩ := head
    simp only [append]
    split
    · rename_i found
      subst found
      by_cases same : other = name <;> simp [actions, same]
    · rename_i passed
      by_cases reached : other = name
      · subst reached
        simp [actions, Ne.symm passed]
      · simpa [actions, reached] using ih

theorem actions_register (phase name : String) (a : Action) (r : Registry) :
    (r.register phase a).actions name =
      if phase = name then r.actions name ++ [a] else r.actions name :=
  actions_append phase name a r.phases

theorem actions_foldl (name : String) (steps : List Plan.Step) (r : Registry) :
    (steps.foldl (fun r step => r.register step.1 step.2) r).actions name =
      r.actions name ++ (steps.filter (·.1 = name)).map (·.2) := by
  induction steps generalizing r with
  | nil => simp
  | cons step rest ih =>
    rw [List.foldl_cons, ih, actions_register]
    by_cases same : step.1 = name <;> simp [same]

theorem ofCalls_eq_foldl (calls : List Registration) :
    ofCalls calls =
      (calls.flatMap Registration.steps).foldl (fun r step => r.register step.1 step.2) {} := by
  rw [ofCalls, List.foldl_flatMap]
  congr 1
  funext r call
  exact Registration.apply_eq_foldl r call

theorem actions_ofCalls (name : String) (calls : List Registration) :
    (ofCalls calls).actions name = Registration.under name calls := by
  rw [ofCalls_eq_foldl, actions_foldl]
  rfl

end Registry
end HostSetup
