import HostSetup.Execution.Rehearsal

/-!
What a run asks its runner for. A runner that notes every call answers as before, and for one
action the note holds at most one call: the command of the action, where the guard holds and the
command is not dry.
-/
namespace HostSetup

variable {σ : Type}

/-- The same runner, with a note of what it was asked for, latest last. -/
def Runner.recorded (runner : Runner (StateM σ)) : Runner (StateM (σ × List Call)) :=
  fun command timeout => do
    let (s, calls) ← get
    let (answer, s) := (runner command timeout).run s
    set (s, calls ++ [Call.mk command timeout])
    return answer

/-- The call that an action leads to, if it leads to one. -/
def Executor.call? (ex : Executor) (p : Platform) (a : Action) : Option Call :=
  if a.appliesTo p then
    match ex.translator.translate a p with
    | .ok command => if command.dry then none else some ⟨command, ex.options.timeout⟩
    | .error _ => none
  else none

theorem run_recorded (runner : Runner (StateM σ)) (command : Command) (timeout : Option Duration)
    (s : σ) (calls : List Call) :
    (runner.recorded command timeout).run (s, calls) =
      (((runner command timeout).run s).1,
        ((runner command timeout).run s).2, calls ++ [⟨command, timeout⟩]) := rfl

namespace Action

variable {p : Platform} {t : Translator} {a : Action}

theorem prepare_not_applying (stays : a.appliesTo p = false) :
    ∃ guard, a.guard = some guard ∧
      a.prepare t p = .error ⟨none, .skipped, some ("guard not met: " ++ guard.render)⟩ := by
  unfold appliesTo at stays
  cases guarded : a.guard with
  | none => simp [guarded] at stays
  | some guard =>
    have unmet : guard.holds p = false := by simpa [guarded] using stays
    exact ⟨guard, rfl, by simp [prepare, guarded, Option.filter, unmet]⟩

theorem no_unmet_guard (applies : a.appliesTo p = true) :
    a.guard.filter (fun guard => !guard.holds p) = none := by
  unfold appliesTo at applies
  cases guarded : a.guard with
  | none => rfl
  | some guard =>
    have met : guard.holds p = true := by simpa [guarded] using applies
    simp [Option.filter, met]

theorem prepare_untranslated {e : SetupError} (applies : a.appliesTo p = true)
    (fails : t.translate a p = .error e) :
    a.prepare t p = .error ⟨none, .failed, some e.message⟩ := by
  simp only [prepare, no_unmet_guard applies, fails]

theorem prepare_translated {command : Command} (applies : a.appliesTo p = true)
    (translated : t.translate a p = .ok command) :
    a.prepare t p =
      if command.dry then .error ⟨some command.render, .skipped, some "dry run"⟩
      else .ok command := by
  simp only [prepare, no_unmet_guard applies, translated]

end Action

namespace Executor

variable (ex : Executor) (runner : Runner (StateM σ)) (p : Platform)

theorem call?_eq (a : Action) :
    ex.call? p a =
      (a.prepare ex.translator p).toOption.map fun command => ⟨command, ex.options.timeout⟩ := by
  unfold call?
  by_cases applies : a.appliesTo p = true
  · rw [if_pos applies]
    cases translated : ex.translator.translate a p with
    | error e => rw [Action.prepare_untranslated applies translated, Except.toOption, Option.map_none]
    | ok command =>
      rw [Action.prepare_translated applies translated]
      cases dry : command.dry <;> simp [dry, Except.toOption]
  · obtain ⟨guard, _, stays⟩ := Action.prepare_not_applying (t := ex.translator)
      (Bool.eq_false_iff.mpr applies)
    rw [if_neg applies, stays, Except.toOption, Option.map_none]

/-- The record changes nothing but itself. -/
theorem perform_recorded (a : Action) (s : σ) (calls : List Call) :
    (ex.perform runner.recorded p a).run (s, calls) =
      (((ex.perform runner p a).run s).1,
        ((ex.perform runner p a).run s).2, calls ++ (ex.call? p a).toList) := by
  rw [call?_eq]
  unfold perform
  cases a.prepare ex.translator p with
  | error ending =>
    simp only [Except.toOption, Option.map_none, Option.toList_none, List.append_nil]
    rfl
  | ok command =>
    simp only [StateT.run_map, run_recorded]
    rfl

end Executor
end HostSetup
