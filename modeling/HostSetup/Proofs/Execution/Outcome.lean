import HostSetup.Proofs.Execution.Calls

/-!
How an action ends, and why. It is ok only with an output that tells of success. It fails for want of
a command, for want of an output, or with an output that does not tell of success. Only the last of
these is ever allowed, and then the action is skipped, as it is where its guard does not hold or
nothing is to be started.
-/
namespace HostSetup

variable {σ : Type}

namespace Action

variable (a : Action) (command : Command)

theorem judge_command (answer : Except SetupError CommandOutput) :
    (a.judge command answer).command = some command.render := by
  simp only [judge]
  split
  · rfl
  · split
    · rfl
    · split <;> rfl

theorem outcome_judge_error (e : SetupError) : (a.judge command (.error e)).outcome = .failed := rfl

theorem outcome_judge_ok (output : CommandOutput) :
    (a.judge command (.ok output)).outcome =
      if output.success then .ok else if a.options.allowNoop then .skipped else .failed := by
  simp only [judge, CommandOutput.ensureSuccess]
  cases output.success with
  | true => rfl
  | false => cases a.options.allowNoop <;> rfl

end Action

namespace Executor

variable (ex : Executor) (runner : Runner (StateM σ)) (p : Platform) (a : Action) (s : σ)

theorem perform_settled {ending : Ending} (settled : a.prepare ex.translator p = .error ending) :
    (ex.perform runner p a).run s = (ending, s) := by
  rw [perform, settled]
  rfl

theorem perform_started {command : Command} (started : a.prepare ex.translator p = .ok command) :
    (ex.perform runner p a).run s =
      let done := (runner command ex.options.timeout).run s
      (a.judge command done.1, done.2) := by
  rw [perform, started]
  rfl

/-- How an action ends that is taken up in the state `s`. -/
def ending : Ending := ((ex.perform runner p a).run s).1

/-- The action applies, and there is no command for it. -/
def Untranslated : Prop := a.appliesTo p = true ∧ ∃ e, ex.translator.translate a p = .error e

/-- The action applies, and its command is only shown. -/
def Withheld : Prop :=
  a.appliesTo p = true ∧ ∃ command, ex.translator.translate a p = .ok command ∧ command.dry = true

/-- The action applies, and this is what the runner answers to its command. -/
def Answered (answer : Except SetupError CommandOutput) : Prop :=
  a.appliesTo p = true ∧ ∃ command, ex.translator.translate a p = .ok command ∧
    command.dry = false ∧ ((runner command ex.options.timeout).run s).1 = answer

/-- The ways an action can take, up to the answer of the runner. -/
theorem ending_cases :
    (a.appliesTo p = false ∧
        (ex.ending runner p a s).command = none ∧ (ex.ending runner p a s).outcome = .skipped) ∨
      (∃ e, a.appliesTo p = true ∧ ex.translator.translate a p = .error e ∧
        (ex.ending runner p a s).command = none ∧ (ex.ending runner p a s).outcome = .failed) ∨
      ∃ command, a.appliesTo p = true ∧ ex.translator.translate a p = .ok command ∧
        (ex.ending runner p a s).command = some command.render ∧
        (ex.ending runner p a s).outcome =
          if command.dry then .skipped
          else (a.judge command ((runner command ex.options.timeout).run s).1).outcome := by
  cases applies : a.appliesTo p with
  | false =>
    obtain ⟨guard, _, stays⟩ := Action.prepare_not_applying (t := ex.translator) applies
    have settled := ex.perform_settled runner p a s stays
    exact .inl ⟨rfl, by simp [ending, settled], by simp [ending, settled]⟩
  | true =>
    cases translated : ex.translator.translate a p with
    | error e =>
      have settled := ex.perform_settled runner p a s (Action.prepare_untranslated applies translated)
      exact .inr (.inl ⟨e, rfl, rfl, by simp [ending, settled], by simp [ending, settled]⟩)
    | ok command =>
      have prepared := Action.prepare_translated applies translated
      refine .inr (.inr ⟨command, rfl, rfl, ?_⟩)
      cases dry : command.dry with
      | true =>
        rw [dry, if_pos rfl] at prepared
        have settled := ex.perform_settled runner p a s prepared
        exact ⟨by simp [ending, settled], by simp [ending, settled]⟩
      | false =>
        rw [dry, if_neg Bool.false_ne_true] at prepared
        have started := ex.perform_started runner p a s prepared
        exact ⟨by simp [ending, started, Action.judge_command], by simp [ending, started]⟩

variable {ex runner p a s} in
theorem answered_iff {command : Command} (applies : a.appliesTo p = true)
    (translated : ex.translator.translate a p = .ok command) (answer : Except SetupError CommandOutput) :
    ex.Answered runner p a s answer ↔
      command.dry = false ∧ ((runner command ex.options.timeout).run s).1 = answer := by
  simp [Answered, applies, translated]

theorem outcome_iffs :
    ((ex.ending runner p a s).outcome = .ok ↔
        ∃ output, ex.Answered runner p a s (.ok output) ∧ output.success = true) ∧
      ((ex.ending runner p a s).outcome = .failed ↔
        ex.Untranslated p a ∨ (∃ e, ex.Answered runner p a s (.error e)) ∨
          ∃ output, ex.Answered runner p a s (.ok output) ∧
            output.success = false ∧ a.options.allowNoop = false) ∧
      ((ex.ending runner p a s).outcome = .skipped ↔
        a.appliesTo p = false ∨ ex.Withheld p a ∨
          ∃ output, ex.Answered runner p a s (.ok output) ∧
            output.success = false ∧ a.options.allowNoop = true) := by
  rcases ex.ending_cases runner p a s with ⟨stays, _, skipped⟩ | ⟨e, applies, fails, _, failed⟩ |
    ⟨command, applies, translated, _, outcome⟩
  · simp [Answered, Untranslated, Withheld, stays, skipped]
  · simp [Answered, Untranslated, Withheld, applies, fails, failed]
  · simp only [answered_iff applies translated, outcome]
    cases dry : command.dry with
    | true => simp [Untranslated, Withheld, applies, translated, dry]
    | false =>
      cases ((runner command ex.options.timeout).run s).1 with
      | error e => simp [Untranslated, Withheld, applies, translated, dry, Action.outcome_judge_error]
      | ok output =>
        cases succeeds : output.success <;> cases allowed : a.options.allowNoop <;>
          simp [Untranslated, Withheld, applies, translated, dry, Action.outcome_judge_ok, succeeds,
            allowed]

theorem command_eq_some_iff (shown : String) :
    (ex.ending runner p a s).command = some shown ↔
      a.appliesTo p = true ∧
        ∃ command, ex.translator.translate a p = .ok command ∧ command.render = shown := by
  rcases ex.ending_cases runner p a s with ⟨stays, none, _⟩ | ⟨e, _, fails, none, _⟩ |
    ⟨command, applies, translated, some, _⟩
  · simp [stays, none]
  · simp [fails, none]
  · simp [applies, translated, some]

/-- How an action ends follows from whether it applies, has a command, and from what the runner
answers. Its command is known exactly if it applies and has one. Allowed to do nothing, it still
fails without a command and without an output, whatever the error; any output that does not tell of
success, be it with an exit code or without, then makes it skipped. -/
theorem outcome_rules (ex : Executor) (runner : Runner (StateM σ)) (p : Platform) (a : Action) (s : σ) :
    let done := ex.ending runner p a s
    let answered := ex.Answered runner p a s
    let lenient := ex.ending runner p (a.withOption .allowNoop) s
    (done.outcome = .ok ↔ ∃ output, answered (.ok output) ∧ output.success = true) ∧
      (done.outcome = .failed ↔
        ex.Untranslated p a ∨ (∃ e, answered (.error e)) ∨
          ∃ output, answered (.ok output) ∧ output.success = false ∧ a.options.allowNoop = false) ∧
      (done.outcome = .skipped ↔
        a.appliesTo p = false ∨ ex.Withheld p a ∨
          ∃ output, answered (.ok output) ∧ output.success = false ∧ a.options.allowNoop = true) ∧
      (∀ shown, done.command = some shown ↔
        a.appliesTo p = true ∧
          ∃ command, ex.translator.translate a p = .ok command ∧ command.render = shown) ∧
      (lenient.outcome = .failed ↔ ex.Untranslated p a ∨ ∃ e, answered (.error e)) ∧
      (lenient.outcome = .skipped ↔
        a.appliesTo p = false ∨ ex.Withheld p a ∨
          ∃ output, answered (.ok output) ∧ output.success = false) := by
  intro done answered lenient
  obtain ⟨ok, failed, skipped⟩ := ex.outcome_iffs runner p a s
  -- the option is not looked at before the runner has answered
  obtain ⟨_, lenientFailed, lenientSkipped⟩ := ex.outcome_iffs runner p (a.withOption .allowNoop) s
  have allowed : (a.withOption .allowNoop).options.allowNoop = true := rfl
  simp only [allowed, Bool.true_eq_false, and_false, exists_false, or_false] at lenientFailed
  simp only [allowed, and_true] at lenientSkipped
  exact ⟨ok, failed, skipped, ex.command_eq_some_iff runner p a s, lenientFailed, lenientSkipped⟩

end Executor
end HostSetup
