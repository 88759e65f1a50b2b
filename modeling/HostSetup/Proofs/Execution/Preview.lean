import Mathlib.Data.List.Forall2
import HostSetup.Proofs.Execution.Outcome
import HostSetup.Proofs.Execution.Prefix

/-!
Dry runs foretell runs in earnest. Where nothing is started, an action is skipped, or fails for want
of a command. A run in earnest that goes on after failures has a result for the same action in the
same place, with the same command, and fails at least where the dry run did.
-/
namespace HostSetup

/-- The mark of a dry run is put on a command when it is made, and changes nothing else. -/
theorem Translator.translate_dryRun (t : Translator) (dry : Bool) (a : Action) (p : Platform) :
    { t with dryRun := dry }.translate a p =
      (t.translate a p).map fun command => { command with dry := dry } := by
  simp only [translate]
  change (t.invocation a p).map _ = _
  cases t.invocation a p <;> rfl

namespace Action

variable {t : Translator} {p : Platform} {a : Action}

theorem prepare_eq_of_not_applying (stays : a.appliesTo p = false) (other : Translator) :
    a.prepare t p = a.prepare other p := by
  obtain ⟨guard, guarded, ends⟩ := prepare_not_applying (t := t) stays
  obtain ⟨same, guardedToo, endsToo⟩ := prepare_not_applying (t := other) stays
  rw [ends, endsToo, Option.some.inj (guarded.symm.trans guardedToo)]

variable (t p a)

/-- The end of an action in a dry run: the one it has in earnest, if nothing is to be started for it. -/
def forecast : Ending :=
  match a.prepare { t with dryRun := false } p with
  | .error ending => ending
  | .ok command => ⟨some command.render, .skipped, some "dry run"⟩

/-- An action fails in a dry run only where it applies and has no command. -/
theorem prepare_dry :
    a.prepare { t with dryRun := true } p = .error (a.forecast t p) ∧
      ((a.forecast t p).outcome = .skipped ∨ (a.forecast t p).outcome = .failed) ∧
      ((a.forecast t p).outcome = .failed ↔
        a.appliesTo p = true ∧ ∃ e, t.translate a p = .error e) := by
  cases applies : a.appliesTo p with
  | false =>
    -- an unmet guard ends the action before the translator is asked
    obtain ⟨guard, _, ends⟩ := prepare_not_applying (t := { t with dryRun := true }) applies
    have live := (prepare_eq_of_not_applying applies { t with dryRun := false }).symm.trans ends
    simp [forecast, ends, live]
  | true =>
    cases translated : t.translate a p with
    | error e =>
      have fails (dry : Bool) : a.prepare { t with dryRun := dry } p =
          .error ⟨none, .failed, some e.message⟩ :=
        prepare_untranslated applies (by rw [Translator.translate_dryRun, translated]; rfl)
      simp [forecast, fails]
    | ok command =>
      have made (dry : Bool) : { t with dryRun := dry }.translate a p =
          .ok { command with dry := dry } := by
        rw [Translator.translate_dryRun, translated]
        rfl
      have live := prepare_translated applies (made false)
      have dry := prepare_translated applies (made true)
      rw [if_pos rfl] at dry
      rw [if_neg Bool.false_ne_true] at live
      simp only [forecast, live, dry]
      exact ⟨rfl, .inl trivial, by simp⟩

end Action

/-- What a result says of another one of the same plan, before that is known. -/
structure Foretells (preview result : StepResult) : Prop where
  phase : preview.phase = result.phase
  action : preview.action = result.action
  command : preview.ending.command = result.ending.command
  failure : preview.isFailed = true →
    result.isFailed = true ∧ preview.ending.detail = result.ending.detail

def StepResult.forecast (t : Translator) (p : Platform) (step : Plan.Step) : StepResult :=
  ⟨step.1, step.2, step.2.forecast t p⟩

namespace Executor

section
variable {m : Type → Type} [Monad m] [LawfulMonad m] (runner : Runner m) (p : Platform) (t : Translator)

/-- A dry run is a forecast of its steps, whatever the runner, which is not asked for anything. -/
theorem runSteps_dry (options : ExecutionOptions) (steps : List Plan.Step) :
    (dry t options).runSteps runner p steps = pure ⟨steps.map (StepResult.forecast t p), false⟩ := by
  induction steps with
  | nil => rfl
  | cons step rest ih =>
    obtain ⟨phase, a⟩ := step
    have settled : a.prepare (dry t options).translator p = .error (a.forecast t p) :=
      (a.prepare_dry t p).1
    have performed : (dry t options).perform runner p a = pure (a.forecast t p) := by
      rw [perform, settled]
    simp only [runSteps, performed, pure_bind, halts_dry, Bool.false_eq_true, if_false, ih]
    rfl

theorem execute_dry (options : ExecutionOptions) (plan : Plan) :
    (dry t options).execute runner p plan =
      pure ⟨plan.steps.map (StepResult.forecast t p), false⟩ := by
  rw [execute_eq_runSteps, runSteps_dry]
end

variable {σ : Type} (runner : Runner (StateM σ)) (p : Platform) (t : Translator)

theorem foretells_perform (timeout : Option Duration) (phase : String) (a : Action) (s : σ) :
    Foretells (.forecast t p (phase, a))
      ⟨phase, a, (((live t timeout true).perform runner p a).run s).1⟩ := by
  have forecast : a.forecast t p = match a.prepare (live t timeout true).translator p with
    | .error ending => ending
    | .ok command => ⟨some command.render, .skipped, some "dry run"⟩ := rfl
  rw [perform, StepResult.forecast, forecast]
  cases a.prepare (live t timeout true).translator p with
  | error ending => exact ⟨rfl, rfl, rfl, fun failed => ⟨failed, rfl⟩⟩
  | ok command =>
    refine ⟨rfl, rfl, ?command, ?failure⟩
    case command => exact (a.judge_command command _).symm
    case failure =>
      intro failed
      contradiction

theorem runSteps_foretold (timeout : Option Duration) (steps : List Plan.Step) (s : σ) :
    List.Forall₂ Foretells (steps.map (StepResult.forecast t p))
      (((live t timeout true).runSteps runner p steps).run s).1.results := by
  induction steps generalizing s with
  | nil => exact .nil
  | cons step rest ih =>
    obtain ⟨phase, a⟩ := step
    rw [runSteps_cons]
    simp only [halts_live, Bool.not_true, Bool.and_false, Bool.false_eq_true, if_false]
    exact .cons (foretells_perform runner p t timeout phase a s) (ih _)

/-- A dry run asks its runner for nothing, never halts, and has one result for each step of the
plan: a failure where the action applies and has no command, and else a skip. Any run in earnest
that goes on after failures, with whatever runner, turns out as it foretells. -/
theorem dry_run_foretells {τ : Type} (idle : Runner (StateM τ)) (options : ExecutionOptions)
    (timeout : Option Duration) (plan : Plan) (u : τ) (s : σ) :
    let preview := (((dry t options).execute idle p plan).run u).1
    let report := (((live t timeout true).execute runner p plan).run s).1
    (dry t options).calls idle p plan u = [] ∧
      preview.halted = false ∧
      preview.results.map StepResult.step = plan.steps ∧
      (∀ r ∈ preview.results, r.ending.outcome = .skipped ∨ r.ending.outcome = .failed) ∧
      (∀ r ∈ preview.results, r.isFailed = true ↔
        r.action.appliesTo p = true ∧ ∃ e, t.translate r.action p = .error e) ∧
      List.Forall₂ Foretells preview.results report.results := by
  intro preview report
  have foreseen : preview = ⟨plan.steps.map (StepResult.forecast t p), false⟩ := by
    simp only [preview, execute_dry]
    rfl
  have results : preview.results = plan.steps.map (StepResult.forecast t p) :=
    congrArg Report.results foreseen
  refine ⟨?calls, ?halted, ?complete, ?outcomes, ?failures, ?foretold⟩
  case calls =>
    rw [calls, execute_dry]
    rfl
  case halted => rw [foreseen]
  case complete =>
    rw [results, List.map_map]
    exact List.map_id _
  case outcomes =>
    intro r member
    obtain ⟨step, _, rfl⟩ := List.mem_map.mp (results ▸ member)
    exact (step.2.prepare_dry t p).2.1
  case failures =>
    intro r member
    obtain ⟨step, _, rfl⟩ := List.mem_map.mp (results ▸ member)
    rw [StepResult.isFailed, decide_eq_true_iff]
    exact (step.2.prepare_dry t p).2.2
  case foretold =>
    have foretold := runSteps_foretold runner p t timeout plan.steps s
    rw [← execute_eq_runSteps] at foretold
    exact results ▸ foretold

end Executor
end HostSetup
