import HostSetup.Proofs.Translation.Support

/-!
Which actions have a command, and of what sort it is: a line for the shell wherever something is
left to run, a program with arguments only where the family has a package manager. What installing
and refreshing would answer without one is never asked for.
-/
namespace HostSetup.Translator

variable (t : Translator) (p : Platform)

theorem exists_command_iff (a : Action) :
    (∃ c, t.translate a p = .ok c) ↔ p.lacks a.kind = false ∧ t.findsNothing a = false := by
  have unless_failed : (∃ c, t.translate a p = .ok c) ↔ ∀ e, t.translate a p ≠ .error e := by
    cases t.translate a p <;> simp
  rw [unless_failed]
  simp only [ne_eq, translate_error_iff]
  cases p.lacks a.kind <;> cases t.findsNothing a <;> simp

theorem lacks_iff (kind : ActionKind) : p.lacks kind = true ↔ p.family = .other ∧ kind ≠ .run := by
  simp [Platform.lacks, ActionKind.isAgnostic]

theorem served_iff (kind : ActionKind) :
    p.lacks kind = false ↔ (p.family = .other → kind = .run) := by
  simp [Platform.lacks, ActionKind.isAgnostic]

theorem findsNothing_eq_false_iff (a : Action) :
    t.findsNothing a = false ↔
      (a.kind = .run ∧ t.expand a.payload.text ≠ "") ∨ a.kind = .refresh ∨
        ((a.kind = .install ∨ a.kind = .pipInstall) ∧ a.payload.words ≠ []) := by
  cases kind : a.kind <;> simp [findsNothing, kind]

theorem exists_exec_invoke (base : Base) (args : List String) :
    ∃ program rest, t.invoke base args = .exec program rest := by
  unfold invoke
  split
  · exact ⟨_, _, rfl⟩
  · exact ⟨_, _, rfl⟩

/-- A command that installs packages is one of the table, with the packages behind it. -/
theorem installPackages_ok {a : Action} {i : Invocation} (made : t.installPackages a p = .ok i) :
    ∃ base, t.installBase? a.options.fromAur p.family = some base ∧
      i = t.invoke base (a.payload.words.map (t.overrides.resolve p)) := by
  simp only [installPackages] at made
  split at made
  · contradiction
  · split at made
    · rename_i base found
      exact ⟨base, found, (Except.ok.inj made).symm⟩
    · contradiction

theorem pipInstall_ok {payload : Payload} {i : Invocation} (made : t.pipInstall payload = .ok i) :
    i = .exec t.python (["-m", "pip", "install"] ++ payload.words) := by
  simp only [pipInstall] at made
  split at made
  · contradiction
  · exact (Except.ok.inj made).symm

theorem runLine_ok {payload : Payload} {i : Invocation} (made : t.runLine payload = .ok i) :
    i = .shell (t.expand payload.text) := by
  cases empty : (t.expand payload.text).isEmpty with
  | true => simp [runLine, empty] at made
  | false =>
    simp only [runLine, empty, Bool.false_eq_true, if_false] at made
    exact (Except.ok.inj made).symm

/-- Only lines go to the shell, and all of them do. -/
theorem invocation_ok {a : Action} {i : Invocation} (made : t.invocation a p = .ok i) :
    if a.kind = .run then i = .shell (t.expand a.payload.text)
    else ∃ program args, i = .exec program args := by
  obtain ⟨kind, payload, options, guard⟩ := a
  rw [invocation] at made
  split at made
  · contradiction
  · cases kind with
    | run => exact t.runLine_ok made
    | install =>
      obtain ⟨base, _, rfl⟩ := t.installPackages_ok p made
      exact t.exists_exec_invoke _ _
    | pipInstall => exact ⟨_, _, t.pipInstall_ok made⟩
    | refresh =>
      obtain rfl := Except.ok.inj made
      exact t.exists_exec_invoke _ _

theorem invocation_of_translate {a : Action} {c : Command} (translated : t.translate a p = .ok c) :
    t.invocation a p = .ok c.invocation := by
  rw [translate] at translated
  cases made : t.invocation a p with
  | error e => simp [made, Except.map] at translated
  | ok i =>
    rw [made] at translated
    rw [← Except.ok.inj translated]

/-- The choice of a command by the kind of action, with any answers for installing and refreshing. -/
def dispatch (install : Action → Platform → Except SetupError Invocation)
    (update : Family → Invocation) (a : Action) (p : Platform) : Except SetupError Invocation :=
  if p.family = .other ∧ ¬a.kind.isAgnostic then .error (unsupported a.kind p.family)
  else match a.kind with
    | .run => t.runLine a.payload
    | .install => install a p
    | .pipInstall => t.pipInstall a.payload
    | .refresh => .ok (update p.family)

theorem invocation_eq_dispatch (a : Action) :
    t.invocation a p = t.dispatch t.installPackages t.refresh a p := rfl

theorem dispatch_congr {install other : Action → Platform → Except SetupError Invocation}
    {update otherUpdate : Family → Invocation} (a : Action)
    (installs : p.family ≠ .other → install a p = other a p)
    (updates : p.family ≠ .other → update p.family = otherUpdate p.family) :
    t.dispatch install update a p = t.dispatch other otherUpdate a p := by
  unfold dispatch
  split
  · rfl
  · rename_i served
    cases kind : a.kind with
    | run | pipInstall => rfl
    | install =>
      have known : p.family ≠ .other := by simpa [kind, ActionKind.isAgnostic] using served
      exact installs known
    | refresh =>
      have known : p.family ≠ .other := by simpa [kind, ActionKind.isAgnostic] using served
      exact congrArg Except.ok (updates known)

/-- An action has a command if it is a line with something left to run, or if its family has a
package manager and it is a refresh or names a package. Without a command, the family is blamed
before the payload. The command is a line for the shell or a program after the kind, so without a
package manager it is a line; and whatever installing and refreshing would answer there, it is
never asked for. -/
theorem translate_support_matrix (a : Action) :
    ((∃ c, t.translate a p = .ok c) ↔
      (a.kind = .run ∧ t.expand a.payload.text ≠ "") ∨
        (p.family ≠ .other ∧ a.kind = .refresh) ∨
        (p.family ≠ .other ∧ (a.kind = .install ∨ a.kind = .pipInstall) ∧ a.payload.words ≠ [])) ∧
      (∀ e, t.translate a p = .error e →
        if p.family = .other ∧ a.kind ≠ .run then e = .unsupported a.kind.name p.family.name
        else e = .invalidAction a.kind.complaint) ∧
      (∀ c, t.translate a p = .ok c →
        (if a.kind = .run then c.invocation = .shell (t.expand a.payload.text)
        else ∃ program args, c.invocation = .exec program args) ∧
        (p.family = .other → c.isShell = true)) ∧
      ∀ (install : Action → Platform → Except SetupError Invocation) (update : Family → Invocation),
        t.invocation a p =
          t.dispatch (fun a p => if p.family = .other then install a p else t.installPackages a p)
            (fun family => if family = .other then update family else t.refresh family) a p := by
  refine ⟨?commands, ?errors, ?sorts, ?unasked⟩
  case commands =>
    rw [exists_command_iff, served_iff, findsNothing_eq_false_iff]
    cases a.kind <;> simp
  case errors =>
    intro e failed
    rcases (t.translate_error_iff p a e).mp failed with ⟨lacks, rfl⟩ | ⟨lacks, _, rfl⟩
    · rw [if_pos ((lacks_iff p a.kind).mp lacks)]
      rfl
    · rw [if_neg (mt (lacks_iff p a.kind).mpr (by simp [lacks]))]
  case sorts =>
    intro c translated
    have sort := t.invocation_ok p (t.invocation_of_translate p translated)
    refine ⟨sort, ?_⟩
    intro family
    have served := ((t.exists_command_iff p a).mp ⟨c, translated⟩).1
    rw [if_pos ((served_iff p a.kind).mp served family)] at sort
    simp [Command.isShell, sort]
  case unasked =>
    intro install update
    rw [invocation_eq_dispatch]
    refine t.dispatch_congr p a ?_ ?_
    · intro known
      rw [if_neg known]
    · intro known
      rw [if_neg known]

end HostSetup.Translator
