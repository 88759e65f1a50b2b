import HostSetup.Proofs.Execution.Calls

/-!
Actions with the same normal form do the same. A payload is read through one view only, its words
or its text, and the kind that tells which view is read also tells which one the normal form keeps.
-/
namespace HostSetup
namespace Action

/-- The view of the payload that a kind reads. -/
inductive View
  | words (words : List String)
  | text (text : String)
  deriving DecidableEq, Repr

def view (a : Action) : View :=
  match a.kind with
  | .install | .pipInstall => .words a.payload.words
  | .run | .refresh => .text a.payload.text

/-- The normal form holds what the action is apart from its payload, and the view of that. -/
theorem normalized_eq_iff {a b : Action} :
    a.normalized = b.normalized ↔
      a.kind = b.kind ∧ a.options = b.options ∧ a.guard = b.guard ∧ a.view = b.view := by
  obtain ⟨kind, payload, options, guard⟩ := a
  obtain ⟨otherKind, otherPayload, otherOptions, otherGuard⟩ := b
  simp only [normalized, view, Action.mk.injEq]
  constructor
  · rintro ⟨rfl, payloads, rfl, rfl⟩
    cases kind <;> simp_all
  · rintro ⟨rfl, rfl, rfl, views⟩
    cases kind <;> simp_all

end Action

namespace Translator

variable {a b : Action}

theorem invocation_congr (same : a.normalized = b.normalized) (t : Translator) (p : Platform) :
    t.invocation a p = t.invocation b p := by
  obtain ⟨kinds, options, _, views⟩ := Action.normalized_eq_iff.mp same
  unfold invocation
  rw [← kinds]
  cases kind : a.kind with
  | run =>
    have texts : a.payload.text = b.payload.text := by simpa [Action.view, ← kinds, kind] using views
    simp only [runLine, texts]
  | install =>
    have words : a.payload.words = b.payload.words := by simpa [Action.view, ← kinds, kind] using views
    simp only [installPackages, words, options, kinds]
  | pipInstall =>
    have words : a.payload.words = b.payload.words := by simpa [Action.view, ← kinds, kind] using views
    simp only [pipInstall, words]
  | refresh => rfl

theorem translate_congr (same : a.normalized = b.normalized) (t : Translator) (p : Platform) :
    t.translate a p = t.translate b p := by
  rw [translate, translate, invocation_congr same]

end Translator

namespace Action

variable {a b : Action}

theorem appliesTo_congr (same : a.normalized = b.normalized) (p : Platform) :
    a.appliesTo p = b.appliesTo p := by
  obtain ⟨_, _, guards, _⟩ := normalized_eq_iff.mp same
  rw [appliesTo, appliesTo, guards]

theorem prepare_congr (same : a.normalized = b.normalized) (t : Translator) (p : Platform) :
    a.prepare t p = b.prepare t p := by
  obtain ⟨_, _, guards, _⟩ := normalized_eq_iff.mp same
  rw [prepare, prepare, guards, Translator.translate_congr same]

theorem judge_congr (same : a.normalized = b.normalized) : a.judge = b.judge := by
  obtain ⟨_, options, _, _⟩ := normalized_eq_iff.mp same
  funext command answer
  simp only [judge, options]

end Action

namespace Executor

variable {a b : Action}

/-- In every monad, hence whatever a runner does and notes. -/
theorem perform_congr {m : Type → Type} [Monad m] (same : a.normalized = b.normalized) (ex : Executor)
    (runner : Runner m) (p : Platform) : ex.perform runner p a = ex.perform runner p b := by
  rw [perform, perform, Action.prepare_congr same, Action.judge_congr same]

/-- Of two actions with the same normal form one can stand for the other: they have the same
command or the same error, apply to the same hosts, have the same options, and a runner is asked
for the same and leads to the same end. -/
theorem same_form_same_effect (same : a.normalized = b.normalized) :
    (∀ (t : Translator) (p : Platform), t.translate a p = t.translate b p) ∧
      (∀ p : Platform, a.appliesTo p = b.appliesTo p) ∧
      (∀ o : ActionOption, a.options.has o = b.options.has o) ∧
      ∀ (ex : Executor) (p : Platform) (σ : Type) (runner : Runner (StateM σ)) (s : σ),
        (ex.perform runner.recorded p a).run (s, []) = (ex.perform runner.recorded p b).run (s, []) := by
  obtain ⟨_, options, _, _⟩ := Action.normalized_eq_iff.mp same
  refine ⟨Translator.translate_congr same, Action.appliesTo_congr same, ?_, ?_⟩
  · intro o
    rw [options]
  · intro ex p σ runner s
    rw [perform_congr same]

/-- Two packages on one line, and the same two in a list. -/
theorem same_form_same_effect_two_spellings :
    let line := Action.install (.one "git  jq")
    let list := Action.install (.many ["git", " jq "])
    let host : Platform := ⟨.debian, "ubuntu", "22.04", "x86_64"⟩
    let ex : Executor := { translator := {} }
    line.normalized = list.normalized ∧
      ex.translator.translate line host = ex.translator.translate list host ∧
      line.appliesTo host = list.appliesTo host ∧
      line.options.has .allowNoop = list.options.has .allowNoop ∧
      (ex.perform (Runner.recorded Rehearsal.runner) host line).run (⟨[], []⟩, []) =
        (ex.perform (Runner.recorded Rehearsal.runner) host list).run (⟨[], []⟩, []) := by
  intro line list host ex
  have same : line.normalized = list.normalized := by cbv
  obtain ⟨commands, applies, options, ends⟩ := same_form_same_effect same
  exact ⟨same, commands _ host, applies host, options _, ends ex host _ _ _⟩

end Executor
end HostSetup
