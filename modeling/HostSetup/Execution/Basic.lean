import HostSetup.Execution.Output
import HostSetup.Execution.Report
import HostSetup.Translator

/-!
Running the actions of a plan, one after the other.

| what happens                                      | outcome |
|---------------------------------------------------|---------|
| the guard does not hold                           | skipped |
| there is no command                               | failed  |
| the command is dry                                | skipped |
| the command succeeds                              | ok      |
| it does not, and the action allows that           | skipped |
| it does not, cannot be started or takes too long  | failed  |

The first failure halts the run, unless it is to go on or nothing is started anyway.
-/
namespace HostSetup

/-- Starts a command and waits for its end, for no longer than the limit. A command that does not
succeed has an output; only one that does not run to its end has an error. -/
abbrev Runner (m : Type → Type) := Command → Option Duration → m (Except SetupError CommandOutput)

structure ExecutionOptions where
  continueOnError : Bool := false
  /-- For each action by itself. -/
  timeout : Option Duration := none
  deriving DecidableEq, Repr, Inhabited

namespace Action

/-- The end of an action for which nothing is started, or else the command to start. -/
def prepare (t : Translator) (p : Platform) (a : Action) : Except Ending Command :=
  match a.guard.filter fun guard => !guard.holds p with
  | some guard => .error ⟨none, .skipped, some ("guard not met: " ++ guard.render)⟩
  | none =>
    match t.translate a p with
    | .error e => .error ⟨none, .failed, some e.message⟩
    | .ok command =>
      if command.dry then .error ⟨some command.render, .skipped, some "dry run"⟩ else .ok command

/-- The end of an action whose command was started. -/
def judge (a : Action) (command : Command) (answer : Except SetupError CommandOutput) : Ending :=
  let shown := command.render
  match answer with
  | .error e => ⟨some shown, .failed, some e.message⟩
  | .ok output =>
    match output.ensureSuccess shown with
    | .ok () => ⟨some shown, .ok, none⟩
    | .error e =>
      if a.options.allowNoop then
        let ignored := "exit code " ++ toString (output.exitCode.getD (-1)) ++ " ignored"
        ⟨some shown, .skipped,
          some (if output.combined.isEmpty then ignored else ignored ++ ": " ++ output.combined)⟩
      else
        ⟨some shown, .failed,
          some (if output.combined.isEmpty then e.message else e.message ++ "\n" ++ output.combined)⟩

end Action

structure Executor where
  translator : Translator
  options : ExecutionOptions := {}
  deriving DecidableEq, Repr, Inhabited

namespace Executor

variable {m : Type → Type} [Monad m]

def perform (ex : Executor) (runner : Runner m) (p : Platform) (a : Action) : m Ending :=
  match a.prepare ex.translator p with
  | .error ending => pure ending
  | .ok command => a.judge command <$> runner command ex.options.timeout

def halts (ex : Executor) (r : StepResult) : Bool :=
  r.isFailed && !ex.options.continueOnError && !ex.translator.dryRun

/-- The steps of a phase, up to the one that halts the run. -/
def runSteps (ex : Executor) (runner : Runner m) (p : Platform) : List Plan.Step → m Report
  | [] => pure ⟨[], false⟩
  | (phase, a) :: rest => do
    let result : StepResult := ⟨phase, a, ← ex.perform runner p a⟩
    if ex.halts result then return ⟨[result], true⟩
    let report ← ex.runSteps runner p rest
    return { report with results := result :: report.results }

def runPhases (ex : Executor) (runner : Runner m) (p : Platform) : List Phase → m Report
  | [] => pure ⟨[], false⟩
  | ph :: rest => do
    let report ← ex.runSteps runner p (ph.actions.map (ph.name, ·))
    if report.halted then return report
    let later ← ex.runPhases runner p rest
    return { later with results := report.results ++ later.results }

def execute (ex : Executor) (runner : Runner m) (p : Platform) (plan : Plan) : m Report :=
  ex.runPhases runner p plan.phases

end Executor
end HostSetup
