import HostSetup.Execution.Summary
import HostSetup.Proofs.Execution.Outcome
import HostSetup.Proofs.Execution.Prefix
import HostSetup.Proofs.Text.Lines

/-!
The account of the failure that halted a run. Between the command and the reader the output of a
command is trimmed, joined, put behind the message of the error and cut into lines again; nothing of
it is lost on the way, and no two lines of it are run together.
-/
namespace HostSetup

namespace CommandOutput

theorem lines_combined (o : CommandOutput) :
    Text.lines o.combined = Text.lines (Text.trim o.stdout) ++ Text.lines (Text.trim o.stderr) := by
  rw [combined]
  by_cases out : Text.trim o.stdout = ""
  · by_cases err : Text.trim o.stderr = "" <;> simp [out, err, Text.lines_empty]
  · by_cases err : Text.trim o.stderr = ""
    · simp [out, err, Text.lines_empty]
    · have both : "\n".intercalate [Text.trim o.stdout, Text.trim o.stderr] =
          Text.trim o.stdout ++ "\n" ++ Text.trim o.stderr := rfl
      simp [out, err, both, Text.lines_append_feed, Text.lines_trim_feed]

/-- What is said of a command that ran and did not succeed. -/
def complaint (shown : String) (o : CommandOutput) : String :=
  "Command failed (exit code " ++ toString (o.exitCode.getD (-1)) ++ "): " ++ shown

/-- What a report holds of it: the complaint, and the output behind it if there is any. -/
def detail (shown : String) (o : CommandOutput) : String :=
  if o.combined.isEmpty then o.complaint shown else o.complaint shown ++ "\n" ++ o.combined

/-- The complaint on lines of its own: if there is output, a line feed keeps the two apart. -/
def complaintLines (shown : String) (o : CommandOutput) : List String :=
  Text.lines (o.complaint shown ++ if o.combined = "" then "" else "\n")

theorem complaintLines_of_plain {shown : String} {o : CommandOutput}
    (no_feed : '\n' ∉ (o.complaint shown).toList) (no_return : '\r' ∉ (o.complaint shown).toList) :
    o.complaintLines shown = [o.complaint shown] := by
  have given : o.complaint shown ≠ "" := by
    unfold complaint
    generalize toString (o.exitCode.getD (-1)) = code
    simp
  have last := List.getLast?_eq_some_getLast (String.toList_eq_nil_iff.not.mpr given)
  have member := List.mem_of_getLast? last
  have not_feed := ne_of_mem_of_not_mem member no_feed
  have not_return := ne_of_mem_of_not_mem member no_return
  rw [complaintLines]
  split
  · rw [String.append_empty, Text.lines_eq_singleton given no_feed]
  · rw [Text.lines_feed last not_feed not_return, Text.lines_eq_singleton given no_feed]

theorem lines_detail (shown : String) (o : CommandOutput) :
    Text.lines (o.detail shown) =
      o.complaintLines shown ++ (Text.lines (Text.trim o.stdout) ++ Text.lines (Text.trim o.stderr)) := by
  rw [← lines_combined, complaintLines, detail]
  by_cases silent : o.combined = ""
  · simp [silent, Text.lines_empty]
  · simp [silent, Text.lines_append_feed]

end CommandOutput

namespace Action

theorem judge_unsuccessful {a : Action} {command : Command} {output : CommandOutput}
    (unsuccessful : output.success = false) (strict : a.options.allowNoop = false) :
    a.judge command (.ok output) =
      ⟨some command.render, .failed, some (output.detail command.render)⟩ := by
  simp only [judge, CommandOutput.ensureSuccess, unsuccessful, strict, Bool.false_eq_true, if_false]
  rfl

end Action

namespace Executor

variable {σ : Type} (ex : Executor) (runner : Runner (StateM σ)) (p : Platform)

/-- A halted run took up its steps without a failure up to the one that halted it. -/
theorem runSteps_halting (steps : List Plan.Step) (s : σ)
    (halted : ((ex.runSteps runner p steps).run s).1.halted = true) :
    ∃ before phase a left, steps = before ++ (phase, a) :: left ∧
      let r : StepResult := ⟨phase, a, ex.ending runner p a ((ex.runSteps runner p before).run s).2⟩
      r.isFailed = true ∧ ((ex.runSteps runner p steps).run s).1.firstFailure = some r := by
  induction steps generalizing s with
  | nil => contradiction
  | cons step rest ih =>
    obtain ⟨phase, a⟩ := step
    obtain ⟨stops, _⟩ := ex.runSteps_ends runner p _ s halted
    rw [runSteps_cons] at halted ⊢
    dsimp only at halted ⊢
    split at halted
    · rename_i halts
      rw [if_pos halts]
      obtain ⟨failed, _⟩ := (Bool.and_eq_true ..).mp (ex.halts_eq _ ▸ halts)
      refine ⟨[], phase, a, rest, rfl, failed, ?_⟩
      exact List.find?_cons_of_pos failed
    · rename_i goes
      rw [if_neg goes]
      have passed : StepResult.isFailed ⟨phase, a, ((ex.perform runner p a).run s).1⟩ = false := by
        simpa [halts_eq, stops] using goes
      -- the failure is the first of the rest, and this step puts none before it
      obtain ⟨before, last, b, left, rfl, failed, first⟩ := ih _ halted
      have state : ((ex.runSteps runner p ((phase, a) :: before)).run s).2 =
          ((ex.runSteps runner p before).run ((ex.perform runner p a).run s).2).2 := by
        rw [runSteps_cons]
        simp [goes]
      refine ⟨(phase, a) :: before, last, b, left, rfl, ?_, ?_⟩
      · rw [state]
        exact failed
      · rw [state, ← first]
        simp [Report.firstFailure, passed]

theorem ending_started {a : Action} {command : Command} {s : σ} (applies : a.appliesTo p = true)
    (translated : ex.translator.translate a p = .ok command) (started : command.dry = false) :
    ex.ending runner p a s = a.judge command ((runner command ex.options.timeout).run s).1 := by
  have prepared := Action.prepare_translated applies translated
  rw [started, if_neg Bool.false_ne_true] at prepared
  rw [ending, ex.perform_started runner p a s prepared]

theorem ending_unsuccessful {a : Action} {command : Command} {output : CommandOutput} {s : σ}
    (failed : (ex.ending runner p a s).outcome = .failed)
    (translated : ex.translator.translate a p = .ok command)
    (answered : ((runner command ex.options.timeout).run s).1 = .ok output)
    (unsuccessful : output.success = false) :
    ex.ending runner p a s =
      ⟨some command.render, .failed, some (output.detail command.render)⟩ := by
  rcases (ex.outcome_iffs runner p a s).2.1.mp failed with
    ⟨_, e, fails⟩ | ⟨e, applies, answer⟩ | ⟨other, ⟨applies, answer⟩, _, strict⟩
  · rw [translated] at fails
    contradiction
  · obtain ⟨_, answer⟩ := (answered_iff applies translated (.error e)).mp ⟨applies, answer⟩
    rw [answered] at answer
    contradiction
  · obtain ⟨started, _⟩ := (answered_iff applies translated (.ok other)).mp ⟨applies, answer⟩
    rw [ex.ending_started runner p applies translated started, answered,
      Action.judge_unsuccessful unsuccessful strict]

/-- A halted run names the phase, the action and the command of its first failure. If the command ran
and did not succeed, the message with its exit code follows, or -1 for want of one, on its own lines
(on one, unless the command breaks the line), and then to the end every line of the trimmed output and
every line of the trimmed error output, each behind four spaces. -/
theorem halted_account_shows_output (plan : Plan) (s : σ)
    (halted : ((ex.execute runner p plan).run s).1.halted = true) :
    ∃ before phase a left, plan.steps = before ++ (phase, a) :: left ∧
      let state := ((ex.runSteps runner p before).run s).2
      let r : StepResult := ⟨phase, a, ex.ending runner p a state⟩
      ((ex.execute runner p plan).run s).1.firstFailure = some r ∧
        ∀ command output, ex.translator.translate a p = .ok command →
          ((runner command ex.options.timeout).run state).1 = .ok output → output.success = false →
            let shown := command.render
            r.account = "\n".intercalate (
              ["Setup failed in phase '" ++ phase ++ "'", "  action:  " ++ a.render,
                "  command: " ++ shown, "  output:"] ++
              (output.complaintLines shown ++ (Text.lines (Text.trim output.stdout) ++
                Text.lines (Text.trim output.stderr))).map ("    " ++ ·)) ∧
            ('\n' ∉ (output.complaint shown).toList → '\r' ∉ (output.complaint shown).toList →
              output.complaintLines shown =
                ["Command failed (exit code " ++ toString (output.exitCode.getD (-1)) ++ "): " ++ shown]) := by
  rw [execute_eq_runSteps] at halted ⊢
  obtain ⟨before, phase, a, left, split, failed, first⟩ := ex.runSteps_halting runner p plan.steps s halted
  refine ⟨before, phase, a, left, split, first, ?_⟩
  intro command output translated answered unsuccessful shown
  refine ⟨?account, CommandOutput.complaintLines_of_plain⟩
  case account =>
    have failed : (ex.ending runner p a ((ex.runSteps runner p before).run s).2).outcome = .failed := by
      simpa [StepResult.isFailed] using failed
    have ending := ex.ending_unsuccessful runner p failed translated answered unsuccessful
    simp only [StepResult.account, Text.joinLines, ending, CommandOutput.lines_detail, shown, List.cons_append,
      List.nil_append]

/-- A command that was ended from outside, with lines broken in both ways and blanks around them. -/
theorem halted_account_shows_output_two_streams :
    let ex : Executor := { translator := {} }
    let ubuntu : Platform := ⟨.debian, "ubuntu", "22.04", "x86_64"⟩
    let plan : Plan := ⟨[⟨"common-first", .commonFirst, [.run (.one "make")]⟩]⟩
    let script : Rehearsal := { cues := [fun _ => .ok ⟨"\n one\r\n\ntwo\n", "gone \n", none, false⟩] }
    let report := ((ex.execute Rehearsal.runner ubuntu plan).run script).1
    report.halted = true ∧
      ∃ r, report.firstFailure = some r ∧
        r.account = "\n".intercalate
          ["Setup failed in phase 'common-first'", "  action:  run make", "  command: make", "  output:",
            "    Command failed (exit code -1): make", "    one", "    ", "    two", "    gone"] := by
  intro ex ubuntu plan script report
  have halted : report.halted = true := by decide
  obtain ⟨before, phase, a, left, split, first, shows⟩ :=
    ex.halted_account_shows_output Rehearsal.runner ubuntu plan script halted
  cases before with
  | cons step rest => simp [plan, Plan.steps] at split
  | nil =>
    obtain ⟨⟨rfl, rfl⟩, rfl⟩ : ("common-first" = phase ∧ Action.run (.one "make") = a) ∧ [] = left := by
      simpa [plan, Plan.steps] using split
    refine ⟨halted, _, first, ?_⟩
    exact (shows ⟨.shell "make", false⟩ _ (by decide) rfl rfl).1.trans (by decide)

end Executor
end HostSetup
