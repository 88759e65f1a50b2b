import HostSetup.Proofs.Execution.Calls

/-!
A run takes up its steps from the first one on, without a gap, and leaves out only what stands
behind the failure that halts it. What it asks the runner for follows from the steps it took up.
-/
namespace HostSetup

variable {σ : Type}

def StepResult.step (r : StepResult) : Plan.Step := (r.phase, r.action)

/-- The last result is a failure, and the only one. -/
def EndsAtFirstFailure (results : List StepResult) : Prop :=
  ∃ before last, results = before ++ [last] ∧ last.isFailed = true ∧ ∀ r ∈ before, r.isFailed = false

theorem EndsAtFirstFailure.cons {r : StepResult} {results : List StepResult}
    (passed : r.isFailed = false) (ends : EndsAtFirstFailure results) :
    EndsAtFirstFailure (r :: results) := by
  obtain ⟨before, last, rfl, failed, clean⟩ := ends
  refine ⟨r :: before, last, rfl, failed, ?_⟩
  intro other member
  rcases List.mem_cons.mp member with rfl | later
  · exact passed
  · exact clean other later

namespace Executor

section
variable {m : Type → Type} [Monad m] [LawfulMonad m] (ex : Executor) (runner : Runner m) (p : Platform)

theorem runSteps_append (first second : List Plan.Step) :
    ex.runSteps runner p (first ++ second) = (do
      let report ← ex.runSteps runner p first
      if report.halted then return report
      let later ← ex.runSteps runner p second
      return { later with results := report.results ++ later.results }) := by
  induction first with
  | nil => simp [runSteps]
  | cons step rest ih =>
    obtain ⟨phase, a⟩ := step
    simp only [List.cons_append, runSteps, ih, bind_assoc]
    refine bind_congr fun ending => ?_
    by_cases halts : ex.halts ⟨phase, a, ending⟩ = true
    · simp [halts]
    · simp only [if_neg halts, bind_assoc, pure_bind]
      refine bind_congr fun report => ?_
      by_cases halted : report.halted = true <;> simp [halted]

/-- The phases are run as the steps of all of them. -/
theorem execute_eq_runSteps (plan : Plan) : ex.execute runner p plan = ex.runSteps runner p plan.steps := by
  obtain ⟨phases⟩ := plan
  induction phases with
  | nil => rfl
  | cons ph rest ih =>
    change ex.runPhases runner p rest = ex.runSteps runner p (Plan.mk rest).steps at ih
    change ex.runPhases runner p (ph :: rest) =
      ex.runSteps runner p (ph.actions.map (ph.name, ·) ++ (Plan.mk rest).steps)
    rw [runPhases, ih, runSteps_append]
end

variable (ex : Executor) (runner : Runner (StateM σ)) (p : Platform)

/-- Whether a failure ends the run. -/
def stopsAtFailure : Bool := !ex.options.continueOnError && !ex.translator.dryRun

theorem stopsAtFailure_iff :
    ex.stopsAtFailure = true ↔
      ex.options.continueOnError = false ∧ ex.translator.dryRun = false := by
  simp [stopsAtFailure]

theorem halts_eq (r : StepResult) : ex.halts r = (r.isFailed && ex.stopsAtFailure) :=
  Bool.and_assoc ..

/-- Starts its commands in earnest, and stops at failures unless it is to go on. -/
def live (t : Translator) (timeout : Option Duration) (continues : Bool) : Executor :=
  ⟨{ t with dryRun := false }, ⟨continues, timeout⟩⟩

/-- Starts nothing. -/
def dry (t : Translator) (options : ExecutionOptions) : Executor := ⟨{ t with dryRun := true }, options⟩

theorem halts_live (t : Translator) (timeout : Option Duration) (continues : Bool) (r : StepResult) :
    (live t timeout continues).halts r = (r.isFailed && !continues) := by
  simp [halts, live]

theorem halts_dry (t : Translator) (options : ExecutionOptions) (r : StepResult) :
    (dry t options).halts r = false := by
  simp [halts, dry]

theorem runSteps_nil (s : σ) : (ex.runSteps runner p []).run s = (⟨[], false⟩, s) := rfl

/-- One step: it is performed, and the rest follows in the state it leaves unless it halts. -/
theorem runSteps_cons (phase : String) (a : Action) (rest : List Plan.Step) (s : σ) :
    (ex.runSteps runner p ((phase, a) :: rest)).run s =
      let done := (ex.perform runner p a).run s
      let result : StepResult := ⟨phase, a, done.1⟩
      if ex.halts result then (⟨[result], true⟩, done.2)
      else
        let later := (ex.runSteps runner p rest).run done.2
        (⟨result :: later.1.results, later.1.halted⟩, later.2) := by
  simp only [runSteps]
  rw [StateT.run_bind]
  change StateT.run (ite _ _ _) _ = _
  split
  · rfl
  · rfl

theorem runSteps_recorded (steps : List Plan.Step) (s : σ) (calls : List Call) :
    (ex.runSteps runner.recorded p steps).run (s, calls) =
      let done := (ex.runSteps runner p steps).run s
      (done.1, done.2, calls ++ done.1.results.filterMap fun r => ex.call? p r.action) := by
  induction steps generalizing s calls with
  | nil => simp [runSteps_nil]
  | cons step rest ih =>
    obtain ⟨phase, a⟩ := step
    simp only [runSteps_cons, perform_recorded]
    split
    · cases call : ex.call? p a <;> simp [call]
    · rw [ih]
      cases call : ex.call? p a <;> simp [call]

/-- What a run asks its runner for. -/
def calls (plan : Plan) (s : σ) : List Call :=
  ((ex.execute runner.recorded p plan).run (s, [])).2.2

/-- The calls are those that the actions with a result lead to. -/
theorem calls_eq (plan : Plan) (s : σ) :
    ex.calls runner p plan s =
      ((ex.execute runner p plan).run s).1.results.filterMap fun r => ex.call? p r.action := by
  rw [calls, execute_eq_runSteps, execute_eq_runSteps, runSteps_recorded]
  rfl

theorem runSteps_prefix (steps : List Plan.Step) (s : σ) :
    ((ex.runSteps runner p steps).run s).1.results.map StepResult.step <+: steps := by
  induction steps generalizing s with
  | nil => exact List.prefix_refl []
  | cons step rest ih =>
    obtain ⟨phase, a⟩ := step
    rw [runSteps_cons]
    dsimp only
    split
    · exact ⟨rest, rfl⟩
    · exact List.cons_prefix_cons.mpr ⟨rfl, ih _⟩

theorem runSteps_complete (steps : List Plan.Step) (s : σ)
    (through : ((ex.runSteps runner p steps).run s).1.halted = false) :
    ((ex.runSteps runner p steps).run s).1.results.map StepResult.step = steps := by
  induction steps generalizing s with
  | nil => rfl
  | cons step rest ih =>
    obtain ⟨phase, a⟩ := step
    rw [runSteps_cons] at through ⊢
    dsimp only at through ⊢
    split at through
    · contradiction
    · rename_i goes
      rw [if_neg goes]
      exact congrArg ((phase, a) :: ·) (ih _ through)

theorem runSteps_ends (steps : List Plan.Step) (s : σ)
    (halted : ((ex.runSteps runner p steps).run s).1.halted = true) :
    ex.stopsAtFailure = true ∧ EndsAtFirstFailure ((ex.runSteps runner p steps).run s).1.results := by
  induction steps generalizing s with
  | nil => contradiction
  | cons step rest ih =>
    obtain ⟨phase, a⟩ := step
    rw [runSteps_cons] at halted ⊢
    dsimp only at halted ⊢
    split at halted
    · rename_i halts
      rw [if_pos halts]
      obtain ⟨failed, stops⟩ := (Bool.and_eq_true ..).mp (ex.halts_eq _ ▸ halts)
      exact ⟨stops, [], _, rfl, failed, by simp⟩
    · rename_i goes
      rw [if_neg goes]
      obtain ⟨stops, ends⟩ := ih _ halted
      -- the run stops at failures, so a step that did not halt it has not failed
      have passed : StepResult.isFailed ⟨phase, a, ((ex.perform runner p a).run s).1⟩ = false := by
        simpa [halts_eq, stops] using goes
      exact ⟨stops, ends.cons passed⟩

/-- A run that stops at failures and goes through has none. -/
theorem runSteps_clean (steps : List Plan.Step) (s : σ) (stops : ex.stopsAtFailure = true)
    (through : ((ex.runSteps runner p steps).run s).1.halted = false) :
    ∀ r ∈ ((ex.runSteps runner p steps).run s).1.results, r.isFailed = false := by
  induction steps generalizing s with
  | nil => simp [runSteps_nil]
  | cons step rest ih =>
    obtain ⟨phase, a⟩ := step
    rw [runSteps_cons] at through ⊢
    dsimp only at through ⊢
    split at through
    · contradiction
    · rename_i goes
      rw [if_neg goes]
      intro r member
      rcases List.mem_cons.mp member with rfl | later
      · simpa [halts_eq, stops] using goes
      · exact ih _ through r later

theorem halted_runSteps_iff (steps : List Plan.Step) (s : σ) :
    ((ex.runSteps runner p steps).run s).1.halted = true ↔
      ex.stopsAtFailure = true ∧
        ∃ r ∈ ((ex.runSteps runner p steps).run s).1.results, r.isFailed = true := by
  constructor
  · intro halted
    obtain ⟨stops, before, last, results, failed, _⟩ := ex.runSteps_ends runner p steps s halted
    exact ⟨stops, last, by simp [results], failed⟩
  · rintro ⟨stops, r, member, failed⟩
    cases through : ((ex.runSteps runner p steps).run s).1.halted with
    | true => rfl
    | false =>
      have clean := ex.runSteps_clean runner p steps s stops through r member
      simp [failed] at clean

/-- The steps a run takes up are the first ones of the plan, with one result each. They are all of
them, unless the run halts: it does at the first failure, where failures end it. The runner is
asked for the commands of these steps and for nothing else. -/
theorem execute_takes_prefix (plan : Plan) (s : σ) :
    let done := (ex.execute runner p plan).run s
    ∃ taken left : List Plan.Step,
      (plan.phases.flatMap fun ph => ph.actions.map (ph.name, ·)) = taken ++ left ∧
      done.1.results.map StepResult.step = taken ∧
      (done.1.halted = true ↔
        ex.options.continueOnError = false ∧ ex.translator.dryRun = false ∧
          ∃ r ∈ done.1.results, r.isFailed = true) ∧
      (if done.1.halted then EndsAtFirstFailure done.1.results else left = []) ∧
      (ex.execute runner.recorded p plan).run (s, []) =
        (done.1, done.2, taken.filterMap fun step => ex.call? p step.2) := by
  rw [execute_eq_runSteps, execute_eq_runSteps]
  intro done
  obtain ⟨left, split⟩ := ex.runSteps_prefix runner p plan.steps s
  refine ⟨_, left, split.symm, rfl, ?halted, ?ends, ?calls⟩
  case halted =>
    have halted := ex.halted_runSteps_iff runner p plan.steps s
    rw [stopsAtFailure_iff, and_assoc] at halted
    exact halted
  case ends =>
    by_cases halted : done.1.halted = true
    · rw [if_pos halted]
      exact (ex.runSteps_ends runner p plan.steps s halted).2
    · rw [if_neg halted]
      rw [ex.runSteps_complete runner p plan.steps s (Bool.eq_false_iff.mpr halted)] at split
      simpa using split
  case calls =>
    rw [runSteps_recorded, List.filterMap_map]
    rfl

end Executor
end HostSetup
