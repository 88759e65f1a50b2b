import HostSetup.Proofs.Translation.Matrix

/-!
Who asks for the rights of the system's administrator. Whether a translator may ask for them makes a
difference for installing and refreshing the system's own packages only, and there none but that the
same command is handed on. A shell line, the interpreter, the manager of macos and the helper for
user packages are started as they are.
-/
namespace HostSetup

/-- The same program with the same arguments, handed on to be started with more rights. -/
def Invocation.elevated : Invocation → Invocation
  | .exec program args => .exec "sudo" (program :: args)
  | .shell line => .shell line

namespace Action

variable (p : Platform) (a : Action)

/-- The action works on packages of the system, with the manager that the system has for them. -/
def needsRights : Bool :=
  (a.kind = .install ∨ a.kind = .refresh) ∧
    (p.family = .debian ∨ p.family = .redhat ∨ p.family = .arch) ∧
    ¬(a.kind = .install ∧ p.family = .arch ∧ a.options.fromAur = true)

/-- How a command of the action is started where rights may be asked for. -/
def elevate (i : Invocation) : Invocation := if a.needsRights p then i.elevated else i

variable {p a}

theorem map_elevate_of_plain (plain : a.needsRights p = false) (made : Except SetupError Invocation) :
    made.map (a.elevate p) = made := by
  cases made <;> simp [Except.map, elevate, plain]

end Action

namespace Translator

variable (t : Translator) (p : Platform) {a : Action}

/-- The rows of the table for installing packages. -/
theorem installBase?_cases {fromAur : Bool} {family : Family} {base : Base}
    (found : t.installBase? fromAur family = some base) :
    (family = .debian ∧ base = ⟨"apt-get", ["install", "-y"], true⟩) ∨
      (family = .redhat ∧ base = ⟨t.redhatManager.name, ["install", "-y"], true⟩) ∨
      (family = .arch ∧ fromAur = true ∧ base = ⟨t.aurHelper, ["-S", "--noconfirm"], false⟩) ∨
      (family = .arch ∧ fromAur = false ∧ base = ⟨"pacman", ["-S", "--noconfirm"], true⟩) ∨
      (family = .macos ∧ base = ⟨"brew", ["install"], false⟩) := by
  cases family <;> cases fromAur <;> simp_all [installBase?]

theorem privileged_of_installBase? {base : Base} (kind : a.kind = .install)
    (found : t.installBase? a.options.fromAur p.family = some base) :
    base.privileged = a.needsRights p := by
  rcases t.installBase?_cases found with ⟨family, rfl⟩ | ⟨family, rfl⟩ | ⟨family, aur, rfl⟩ |
    ⟨family, aur, rfl⟩ | ⟨family, rfl⟩ <;>
    simp_all [Action.needsRights]

theorem privileged_refreshBase (kind : a.kind = .refresh) :
    (t.refreshBase p.family).privileged = a.needsRights p := by
  cases family : p.family <;> simp [refreshBase, Action.needsRights, kind, family]

theorem invoke_withSudo {base : Base} (privileged : base.privileged = a.needsRights p)
    (args : List String) :
    { t with withSudo := true }.invoke base args =
      a.elevate p ({ t with withSudo := false }.invoke base args) := by
  rw [Action.elevate, ← privileged]
  cases rights : base.privileged <;> simp [invoke, rights, Invocation.elevated]

theorem installPackages_withSudo (kind : a.kind = .install) :
    { t with withSudo := true }.installPackages a p =
      ({ t with withSudo := false }.installPackages a p).map (a.elevate p) := by
  -- both look in the same table
  have table (asks : Bool) :
      { t with withSudo := asks }.installBase? a.options.fromAur p.family =
        t.installBase? a.options.fromAur p.family := rfl
  simp only [installPackages, table]
  split
  · rfl
  · cases found : t.installBase? a.options.fromAur p.family with
    | none => rfl
    | some base =>
      exact congrArg Except.ok (t.invoke_withSudo p (t.privileged_of_installBase? p kind found) _)

theorem invocation_withSudo (a : Action) :
    { t with withSudo := true }.invocation a p =
      ({ t with withSudo := false }.invocation a p).map (a.elevate p) := by
  unfold invocation
  split
  · rfl
  · cases kind : a.kind with
    | run =>
      rw [Action.map_elevate_of_plain (by simp [Action.needsRights, kind])]
      rfl
    | pipInstall =>
      rw [Action.map_elevate_of_plain (by simp [Action.needsRights, kind])]
      rfl
    | install => exact t.installPackages_withSudo p kind
    | refresh =>
      exact congrArg Except.ok (t.invoke_withSudo p (t.privileged_refreshBase p kind) [])

theorem translate_withSudo (a : Action) :
    { t with withSudo := true }.translate a p =
      ({ t with withSudo := false }.translate a p).map fun c : Command =>
        { c with invocation := a.elevate p c.invocation } := by
  rw [translate, invocation_withSudo, translate]
  generalize ({ t with withSudo := false } : Translator).invocation a p = made
  cases made <;> rfl

theorem kind_ne_run_of_needsRights (needs : a.needsRights p = true) : a.kind ≠ .run := by
  intro kind
  simp [Action.needsRights, kind] at needs

/-- A translator that may ask for rights fails where one that may not does, with the same error.
Where the action works on the system's own packages, its command is the other one's, handed on;
everywhere else it is the very same. -/
theorem rights_for_system_packages_only (a : Action) :
    let plain := { t with withSudo := false }.translate a p
    let asking := { t with withSudo := true }.translate a p
    (∀ e, asking = .error e ↔ plain = .error e) ∧
      ∀ c, plain = .ok c →
        if a.needsRights p then
          ∃ program args, c.invocation = .exec program args ∧
            asking = .ok ⟨.exec "sudo" (program :: args), c.dry⟩
        else asking = .ok c := by
  intro plain asking
  have elevated : asking = plain.map fun c : Command => { c with invocation := a.elevate p c.invocation } :=
    t.translate_withSudo p a
  constructor
  · intro e
    rw [elevated]
    cases plain <;> simp [Except.map]
  · intro c made
    rw [elevated, made]
    split
    · rename_i needs
      have sort := invocation_ok _ p (invocation_of_translate _ p made)
      rw [if_neg (kind_ne_run_of_needsRights p needs)] at sort
      obtain ⟨program, args, exec⟩ := sort
      refine ⟨program, args, exec, ?_⟩
      simp [Except.map, Action.elevate, needs, exec, Invocation.elevated]
    · rename_i plain
      simp [Except.map, Action.elevate, plain]

end Translator
end HostSetup
