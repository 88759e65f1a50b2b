import HostSetup.Proofs.Execution.Prefix

/-!
Stopping at failures only cuts a run short. Started in the same state, a run that stops and a run
that goes on are in step up to the first failure; there the one ends, and what the other still does
leaves its exit code and its first failure as they are.
-/
namespace HostSetup

/-- The results up to the first failure and with it, or all of them if none has failed. -/
def throughFirstFailure : List StepResult → List StepResult
  | [] => []
  | r :: rest => if r.isFailed then [r] else r :: throughFirstFailure rest

theorem throughFirstFailure_prefix (results : List StepResult) :
    throughFirstFailure results <+: results := by
  induction results with
  | nil => exact List.prefix_refl []
  | cons r rest ih =>
    rw [throughFirstFailure]
    split
    · exact ⟨rest, rfl⟩
    · exact List.cons_prefix_cons.mpr ⟨rfl, ih⟩

theorem find?_throughFirstFailure (results : List StepResult) :
    (throughFirstFailure results).find? (·.isFailed) = results.find? (·.isFailed) := by
  induction results with
  | nil => rfl
  | cons r rest ih =>
    rw [throughFirstFailure]
    by_cases failed : r.isFailed = true
    · simp [failed]
    · rw [if_neg failed, List.find?_cons, List.find?_cons, ih]

theorem any_throughFirstFailure (results : List StepResult) :
    (throughFirstFailure results).any (·.isFailed) = results.any (·.isFailed) := by
  rw [← List.isSome_find?, find?_throughFirstFailure, List.isSome_find?]

namespace Executor

variable {σ : Type} (runner : Runner (StateM σ)) (p : Platform) (t : Translator)
  (timeout : Option Duration)

/-- The two runs perform the same action in the same state, so they differ in nothing but the end
at a failure. -/
theorem runSteps_truncates (steps : List Plan.Step) (s : σ) :
    (((live t timeout false).runSteps runner p steps).run s).1.results =
      throughFirstFailure (((live t timeout true).runSteps runner p steps).run s).1.results := by
  induction steps generalizing s with
  | nil => rfl
  | cons step rest ih =>
    obtain ⟨phase, a⟩ := step
    have same : (live t timeout false).perform runner p a = (live t timeout true).perform runner p a :=
      rfl
    simp only [runSteps_cons, same, halts_live, Bool.not_true, Bool.not_false, Bool.and_false,
      Bool.and_true, Bool.false_eq_true, if_false, throughFirstFailure]
    split
    · rfl
    · rw [ih]

/-- From the same state, the run that stops at failures has the results of the run that goes on, up
to the first failure; it makes the same calls but for those that the results left out led to. Both
have the same exit code and the same first failure. -/
theorem fail_fast_truncates (plan : Plan) (s : σ) :
    let stopping := live t timeout false
    let going := live t timeout true
    let fast := ((stopping.execute runner p plan).run s).1
    let full := ((going.execute runner p plan).run s).1
    fast.results = throughFirstFailure full.results ∧
      (∃ left, full.results = fast.results ++ left ∧
        going.calls runner p plan s =
          stopping.calls runner p plan s ++ left.filterMap fun r => going.call? p r.action) ∧
      fast.exitCode = full.exitCode ∧
      fast.firstFailure = full.firstFailure := by
  intro stopping going fast full
  have truncated : fast.results = throughFirstFailure full.results := by
    simp only [fast, full, execute_eq_runSteps]
    exact runSteps_truncates runner p t timeout plan.steps s
  have failures : fast.hasFailures = full.hasFailures := by
    rw [Report.hasFailures, truncated, any_throughFirstFailure, Report.hasFailures]
  obtain ⟨left, split⟩ := throughFirstFailure_prefix full.results
  rw [← truncated] at split
  refine ⟨truncated, ⟨left, split.symm, ?calls⟩, ?code, ?first⟩
  case calls =>
    have shorter : stopping.calls runner p plan s =
        fast.results.filterMap fun r => going.call? p r.action := calls_eq ..
    rw [calls_eq, shorter, ← List.filterMap_append, split]
  case code => rw [Report.exitCode, failures, Report.exitCode]
  case first => rw [Report.firstFailure, truncated, find?_throughFirstFailure, Report.firstFailure]

end Executor
end HostSetup
