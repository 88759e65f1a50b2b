import HostSetup.Proofs.Plan.Resolution
import HostSetup.Setup.Basic

/-!
What a setup registers: the refresh, if it asks for one, and then its phases name by name.
-/
namespace HostSetup.Setup

/-- The calls that make the registry of a setup. -/
def registrations (c : Setup) : List Registration :=
  (if c.refresh then [.single Slot.commonFirst.name .refresh] else []) ++
    c.phases.entries.map fun entry => .several entry.1 entry.2

theorem registry_eq_ofCalls (c : Setup) : c.registry = .ofCalls c.registrations := by
  rw [registry, Registry.ofCalls, registrations, List.foldl_append, List.foldl_map]
  cases c.refresh <;> rfl

/-- What a setup does on a host it was told to do, the refresh apart. -/
theorem mem_plan_steps {c : Setup} {p : Platform} {step : Plan.Step}
    (member : step ∈ (c.registry.plan p).steps) :
    step.2 = .refresh ∨ ∃ entry ∈ c.phases.entries, step.2 ∈ entry.2 := by
  rw [registry_eq_ofCalls] at member
  obtain ⟨_, _, registered⟩ := Resolution.registered_of_mem_steps member
  obtain ⟨call, made, same⟩ := List.mem_map.mp registered
  obtain ⟨registration, listed, own⟩ := List.mem_flatMap.mp (List.mem_filter.mp made).1
  rw [registrations, List.mem_append] at listed
  rcases listed with refreshed | phase
  · left
    split at refreshed
    · obtain rfl := List.mem_singleton.mp refreshed
      obtain rfl := List.mem_singleton.mp own
      exact same.symm
    · contradiction
  · right
    obtain ⟨entry, place, rfl⟩ := List.mem_map.mp phase
    obtain ⟨a, action, rfl⟩ := List.mem_map.mp own
    exact ⟨entry, place, same ▸ action⟩

end HostSetup.Setup
