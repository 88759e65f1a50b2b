import HostSetup.Process.Launch
import HostSetup.Proofs.Execution.Prefix

/-!
Runs that may break down. Up to there they go as any other run: one that comes to its end is a run
with a runner that always answers, and has all the laws of those.
-/
namespace HostSetup

variable {σ τ α β : Type}

theorem attempt_bind (x : ExceptT Breakdown (StateM τ) α) (f : α → ExceptT Breakdown (StateM τ) β)
    (s : τ) :
    (x >>= f).run.run s = match x.run.run s with
      | (.ok a, s) => (f a).run.run s
      | (.error b, s) => (.error b, s) := by
  rw [ExceptT.run_bind, StateT.run_bind]
  generalize x.run.run s = came
  obtain ⟨result, after⟩ := came
  cases result <;> rfl

theorem attempt_bind_ok {x : ExceptT Breakdown (StateM τ) α} {f : α → ExceptT Breakdown (StateM τ) β}
    {s after : τ} {b : β} (whole : (x >>= f).run.run s = (.ok b, after)) :
    ∃ a mid, x.run.run s = (.ok a, mid) ∧ (f a).run.run mid = (.ok b, after) := by
  rw [attempt_bind] at whole
  split at whole
  · rename_i a mid came
    exact ⟨a, mid, came, whole⟩
  · cases whole

theorem attempt_lift (x : StateM τ α) (s : τ) :
    (liftM x : ExceptT Breakdown (StateM τ) α).run.run s = (.ok (x.run s).1, (x.run s).2) := rfl

/-- The runner that answers also where the other breaks down. -/
def Runner.steadied (runner : Runner (ExceptT Breakdown (StateM σ))) : Runner (StateM σ) :=
  fun command timeout s =>
    match (runner command timeout).run.run s with
    | (.ok answer, s) => (answer, s)
    | (.error _, s) => (.ok (.ok ""), s)

namespace Executor

variable (ex : Executor) {runner : Runner (ExceptT Breakdown (StateM σ))} (p : Platform)

theorem perform_steadied {a : Action} {s after : σ} {ending : Ending}
    (whole : (ex.perform runner p a).run.run s = (.ok ending, after)) :
    (ex.perform runner.steadied p a).run s = (ending, after) := by
  unfold perform at whole ⊢
  cases prepared : a.prepare ex.translator p with
  | error ending =>
    rw [prepared] at whole
    cases whole
    rfl
  | ok command =>
    simp only [prepared, map_eq_pure_bind] at whole
    obtain ⟨answer, mid, came, judged⟩ := attempt_bind_ok whole
    cases judged
    have answered : (runner.steadied command ex.options.timeout).run s = (answer, after) := by
      simp only [Runner.steadied, StateT.run] at came ⊢
      rw [came]
    rw [StateT.run_map, answered]
    rfl

/-- A run that does not break down is one with a runner that always answers. -/
theorem runSteps_steadied {steps : List Plan.Step} {s after : σ} {report : Report}
    (whole : (ex.runSteps runner p steps).run.run s = (.ok report, after)) :
    (ex.runSteps runner.steadied p steps).run s = (report, after) := by
  induction steps generalizing s report with
  | nil =>
    cases whole
    rfl
  | cons step rest ih =>
    obtain ⟨phase, a⟩ := step
    obtain ⟨ending, mid, performed, whole⟩ := attempt_bind_ok whole
    rw [runSteps_cons, ex.perform_steadied p performed]
    dsimp only at whole ⊢
    by_cases halts : ex.halts ⟨phase, a, ending⟩ = true
    · rw [if_pos halts] at whole ⊢
      cases whole
      rfl
    · rw [if_neg halts] at whole ⊢
      obtain ⟨later, left, followed, whole⟩ := attempt_bind_ok whole
      cases whole
      rw [ih followed]

theorem execute_steadied {plan : Plan} {s after : σ} {report : Report}
    (whole : (ex.execute runner p plan).run.run s = (.ok report, after)) :
    (ex.execute runner.steadied p plan).run s = (report, after) := by
  rw [execute_eq_runSteps] at whole ⊢
  exact ex.runSteps_steadied p whole

end Executor
end HostSetup
