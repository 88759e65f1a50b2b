import HostSetup.Translator

/-!
When an action has no command. Either its family has none for its kind, or nothing is left of its
payload: no packages, or a line that is empty once its placeholders are filled in.
-/
namespace HostSetup

def Platform.lacks (kind : ActionKind) (p : Platform) : Bool := p.family = .other && !kind.isAgnostic

/-- What is said of an action with nothing to work on. -/
def ActionKind.complaint : ActionKind → String
  | .run => "run with an empty command"
  | .install => "install with no packages"
  | .pipInstall => "pip-install with an empty spec"
  | .refresh => ""

namespace Translator

variable (t : Translator) (p : Platform)

/-- Nothing is left of the payload in the form in which it is passed on. -/
def findsNothing (a : Action) : Bool :=
  match a.kind with
  | .run => (t.expand a.payload.text).isEmpty
  | .install | .pipInstall => a.payload.words.isEmpty
  | .refresh => false

theorem runLine_error_iff (payload : Payload) (e : SetupError) :
    t.runLine payload = .error e ↔
      (t.expand payload.text).isEmpty = true ∧ e = .invalidAction ActionKind.run.complaint := by
  cases empty : (t.expand payload.text).isEmpty with
  | false => simp [runLine, empty]
  | true =>
    simp only [runLine, empty, if_true, Except.error.injEq, true_and]
    exact eq_comm

theorem pipInstall_error_iff (payload : Payload) (e : SetupError) :
    t.pipInstall payload = .error e ↔
      payload.words.isEmpty = true ∧ e = .invalidAction ActionKind.pipInstall.complaint := by
  cases empty : payload.words.isEmpty with
  | false => simp [pipInstall, empty]
  | true =>
    simp only [pipInstall, empty, if_true, Except.error.injEq, true_and]
    exact eq_comm

theorem installBase?_isSome {family : Family} (known : family ≠ .other) (fromAur : Bool) :
    ∃ base, t.installBase? fromAur family = some base := by
  cases family <;> cases fromAur <;> simp_all [installBase?]

theorem installPackages_error_iff (a : Action) (known : p.family ≠ .other) (e : SetupError) :
    t.installPackages a p = .error e ↔
      a.payload.words.isEmpty = true ∧ e = .invalidAction ActionKind.install.complaint := by
  obtain ⟨base, found⟩ := t.installBase?_isSome known a.options.fromAur
  cases empty : a.payload.words.isEmpty with
  | false => simp [installPackages, empty, found]
  | true =>
    simp only [installPackages, List.isEmpty_map, empty, if_true, Except.error.injEq, true_and]
    exact eq_comm

/-- An action has a command unless its family lacks one for its kind or nothing is left of its
payload. Of both troubles the family's is reported. -/
theorem invocation_error_iff (a : Action) (e : SetupError) :
    t.invocation a p = .error e ↔
      (p.lacks a.kind = true ∧ e = unsupported a.kind p.family) ∨
        (p.lacks a.kind = false ∧ t.findsNothing a = true ∧ e = .invalidAction a.kind.complaint) := by
  have lacking : p.lacks a.kind = true ↔ p.family = .other ∧ ¬a.kind.isAgnostic = true := by
    simp [Platform.lacks]
  cases lacks : p.lacks a.kind with
  | true =>
    rw [invocation, if_pos (lacking.mp lacks), Except.error.injEq]
    simp only [true_and, Bool.true_eq_false, false_and, or_false]
    exact eq_comm
  | false =>
    rw [invocation, if_neg (mt lacking.mpr (by simp [lacks]))]
    simp only [Bool.false_eq_true, false_and, true_and, false_or, findsNothing]
    have known (bound : a.kind.isAgnostic = false) : p.family ≠ .other := by
      simpa [Platform.lacks, bound] using lacks
    cases kind : a.kind with
    | run => exact t.runLine_error_iff a.payload e
    | install => exact t.installPackages_error_iff p a (known (by simp [kind, ActionKind.isAgnostic])) e
    | pipInstall => exact t.pipInstall_error_iff a.payload e
    | refresh => simp

theorem translate_error_iff (a : Action) (e : SetupError) :
    t.translate a p = .error e ↔
      (p.lacks a.kind = true ∧ e = unsupported a.kind p.family) ∨
        (p.lacks a.kind = false ∧ t.findsNothing a = true ∧ e = .invalidAction a.kind.complaint) := by
  rw [← invocation_error_iff, translate]
  cases t.invocation a p <;> simp [Except.map]

end Translator
end HostSetup
