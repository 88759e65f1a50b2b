import HostSetup.Execution.Rehearsal
import HostSetup.Platform.OsRelease
import HostSetup.Proofs.Execution.Preview
import HostSetup.Proofs.Plan.HostSlots

/-!
The common phases around those of the host. Nothing of the first common phase is placed behind its own
slot, on any host. The last one keeps to its slot as well, and is run behind all others, except on a
host that calls itself by its name: there it is the phase of the distribution, and is run ahead of
the phase of the operating system.
-/
namespace HostSetup

theorem Slot.phaseName?_eq_commonLast_iff {p : Platform} {slot : Slot} :
    slot.phaseName? p = some Slot.commonLast.name ↔
      slot = .commonLast ∨ slot = .distro ∧ p.distro = Slot.commonLast.name := by
  obtain ⟨family, distro, version, arch⟩ := p
  cases slot with
  | distro => grind [phaseName?, name, String.isEmpty_iff]
  | commonFirst | commonLast => simp [phaseName?, name]
  | familyCompat => cases family <;> simp [phaseName?, Family.compatPhase, Family.name, name]
  | os => cases family <;> grind [phaseName?, Platform.os, name]

theorem Platform.os_ne_commonLast (p : Platform) : p.os ≠ Slot.commonLast.name := by
  unfold os
  split <;> decide

namespace Resolution

variable {calls : List Registration} {p : Platform}

/-- No action in these slots comes from the phase of this name. -/
def KeepsOut (name : String) (slots : List Slot) (calls : List Registration) (p : Platform) : Prop :=
  ∀ ph ∈ ((Registry.ofCalls calls).plan p).phases, ph.slot ∈ slots → ∀ a ∈ ph.actions,
    ∃ other, other ≠ name ∧ ph.slot.phaseName? p = some other ∧ a ∈ Registration.under other calls

/-- Of these steps, those of the phase of this name are behind all others. -/
def ComesLast (name : String) (steps : List Plan.Step) : Prop :=
  steps.Pairwise fun earlier later => earlier.1 = name → later.1 = name

theorem keepsOut_commonFirst (calls : List Registration) (p : Platform) :
    KeepsOut Slot.commonFirst.name Slot.ofHost calls p := by
  intro ph phase own a action
  obtain ⟨resolves, member⟩ := registered_of_mem_phase phase action
  refine ⟨ph.name, ?_, resolves, member⟩
  intro common
  -- a host with this name has the whole phase in the slot before, so nothing of it is new
  have opening : (Slot.commonFirst, a) ∈ registered calls p [.commonFirst] :=
    mem_registered.mpr ⟨List.mem_cons_self, mem_brought.mpr ⟨_, rfl, common ▸ member⟩⟩
  exact isFresh_of_placed phase own action _ opening rfl

theorem keepsOut_commonLast (calls : List Registration) (apart : p.distro ≠ Slot.commonLast.name) :
    KeepsOut Slot.commonLast.name (.commonFirst :: Slot.ofHost) calls p := by
  intro ph phase own a action
  obtain ⟨resolves, member⟩ := registered_of_mem_phase phase action
  refine ⟨ph.name, ?_, resolves, member⟩
  intro common
  rcases Slot.phaseName?_eq_commonLast_iff.mp (common ▸ resolves) with slot | ⟨_, called⟩
  · rw [slot] at own
    contradiction
  · exact apart called

theorem comesLast_plan (calls : List Registration) (apart : p.distro ≠ Slot.commonLast.name) :
    ComesLast Slot.commonLast.name ((Registry.ofCalls calls).plan p).steps := by
  have ordered : ((Registry.ofCalls calls).plan p).phases.Pairwise fun ph _ => ph.slot ≠ .commonLast := by
    have slots : (((Registry.ofCalls calls).plan p).phases.map (·.slot)).Pairwise fun slot _ =>
        slot ≠ .commonLast := by
      rw [plan_slots]
      decide
    exact List.pairwise_map.mp slots
  refine List.pairwise_flatMap.mpr ⟨?within, ordered.imp_of_mem ?across⟩
  case within =>
    intro ph _
    exact List.pairwise_map.mpr (List.pairwise_of_forall fun _ _ same => same)
  case across =>
    intro ph _ phase _ earlier step left _ _ common
    obtain ⟨a, action, rfl⟩ := List.mem_map.mp left
    -- only the last slot has its name here, and no phase comes behind that one
    have resolves := (registered_of_mem_phase phase action).1
    rw [show ph.name = Slot.commonLast.name from common, Slot.phaseName?_eq_commonLast_iff] at resolves
    rcases resolves with slot | ⟨_, called⟩
    · exact absurd slot earlier
    · exact absurd called apart

/-- One action to come last on all hosts, and one for the operating system. -/
def lastAndOs (p : Platform) : List Registration :=
  [.single Slot.commonLast.name (.run (.one "echo last")), .single p.os (.run (.one "ldconfig"))]

theorem phases_of_called (called : p.distro = Slot.commonLast.name) :
    ((Registry.ofCalls (lastAndOs p)).plan p).phases =
      [⟨Slot.commonFirst.name, .commonFirst, []⟩, ⟨p.family.compatPhase, .familyCompat, []⟩,
        ⟨Slot.commonLast.name, .distro, [.run (.one "echo last")]⟩,
        ⟨p.os, .os, [.run (.one "ldconfig")]⟩, ⟨Slot.commonLast.name, .commonLast, []⟩] := by
  obtain ⟨family, distro, version, arch⟩ := p
  obtain rfl : distro = Slot.commonLast.name := called
  cases family <;> rfl

theorem steps_of_dry {σ : Type} (runner : Runner (StateM σ)) (t : Translator) (p : Platform)
    (plan : Plan) (s : σ) :
    (((Executor.dry t {}).execute runner p plan).run s).1.results.map StepResult.step = plan.steps := by
  rw [Executor.execute_dry, StateT.run_pure]
  exact (List.map_map ..).trans (List.map_id _)

/-- Nothing of the first common phase is placed among the phases of the host. Nothing of the last
one is, and none of it is ever run ahead of another phase, whatever was registered, exactly if the
distribution of the host does not have its name. -/
theorem common_phases_bracket_iff (p : Platform) :
    (∀ calls, KeepsOut Slot.commonFirst.name Slot.ofHost calls p) ∧
      ((∀ calls, KeepsOut Slot.commonLast.name (.commonFirst :: Slot.ofHost) calls p) ↔
        p.distro ≠ Slot.commonLast.name) ∧
      ((∀ calls (ex : Executor) (σ : Type) (runner : Runner (StateM σ)) (s : σ),
        let plan := (Registry.ofCalls calls).plan p
        let taken := ((ex.execute runner p plan).run s).1.results.map StepResult.step
        (∀ step ∈ taken, step.2 ∈ Registration.under step.1 calls) ∧
          ComesLast Slot.commonLast.name taken) ↔ p.distro ≠ Slot.commonLast.name) := by
  refine ⟨fun calls => keepsOut_commonFirst calls p, ⟨?placed, ?apart⟩, ⟨?run, ?ordered⟩⟩
  case placed =>
    intro out called
    have phases := phases_of_called called
    obtain ⟨other, differs, resolves, _⟩ :=
      out (lastAndOs p) ⟨Slot.commonLast.name, .distro, [.run (.one "echo last")]⟩
        (by simp [phases]) (by decide) _ List.mem_cons_self
    have own := Slot.phaseName?_eq_commonLast_iff.mpr (.inr ⟨rfl, called⟩)
    exact differs (Option.some.inj (resolves.symm.trans own))
  case apart =>
    intro apart calls
    exact keepsOut_commonLast calls apart
  case run =>
    intro last called
    have ordered := (last (lastAndOs p) (Executor.dry {} {}) _ Rehearsal.runner ⟨[], []⟩).2
    rw [steps_of_dry, Plan.steps, phases_of_called called] at ordered
    have behind := (List.pairwise_cons.mp ordered).1 (p.os, .run (.one "ldconfig")) (by simp) rfl
    exact p.os_ne_commonLast behind
  case ordered =>
    intro apart calls ex σ runner s plan taken
    have first : taken <+: plan.steps := by
      simp only [taken, Executor.execute_eq_runSteps]
      exact ex.runSteps_prefix runner p plan.steps s
    refine ⟨?_, (comesLast_plan calls apart).sublist first.sublist⟩
    intro step member
    obtain ⟨_, _, registered⟩ := registered_of_mem_steps (first.subset member)
    exact registered

/-- A host whose os-release file names it as the last common phase, which is then run ahead of the
phase of its operating system. -/
theorem common_last_runs_early :
    let p := Platform.ofOsRelease "ID=common-last\n" "x86_64"
    let calls := [Registration.single "common-last" (.run (.one "echo last")),
      .single "linux" (.run (.one "ldconfig"))]
    let ex : Executor := { translator := {} }
    let report := ((ex.execute Rehearsal.runner p ((Registry.ofCalls calls).plan p)).run ⟨[], []⟩).1
    ¬KeepsOut "common-last" [.commonFirst, .familyCompat, .distro, .os] calls p ∧
      report.results.map StepResult.step =
        [("common-last", .run (.one "echo last")), ("linux", .run (.one "ldconfig"))] := by
  have host : Platform.ofOsRelease "ID=common-last\n" "x86_64" =
      ⟨.other, "common-last", "", "x86_64"⟩ := by decide +kernel
  rw [host]
  intro p calls ex report
  refine ⟨?_, by decide +kernel⟩
  intro out
  obtain ⟨other, differs, resolves, _⟩ :=
    out ⟨"common-last", .distro, [.run (.one "echo last")]⟩ (by decide) (by decide) _ List.mem_cons_self
  exact differs (Option.some.inj (resolves.symm.trans rfl))

end Resolution
end HostSetup
