import HostSetup.Plan.Programs
import HostSetup.Proofs.Translation.Arguments

/-!
The programs that a plan is checked for are those that its commands start. They are found without
translating anything, by a table of their own over kinds, options and families; it agrees with the
translator wherever an action has a command, and what a command asks the administrator's rights of
is not counted.
-/
namespace HostSetup

theorem Translator.packageManager?_eq_some (t : Translator) {family : Family} (known : family ≠ .other) :
    t.packageManager? family = some (t.refreshBase family).program := by
  cases family <;> first | rfl | contradiction

namespace Action

variable {t : Translator} {p : Platform} {a : Action}

theorem program?_eq_packageTool? (kind : a.kind = .install ∨ a.kind = .pipInstall) :
    a.program? t p = t.packageTool? p a := by
  rcases kind with kind | kind
  · simp only [program?, Translator.packageTool?, kind, and_comm]
  · simp only [program?, Translator.packageTool?, kind]

/-- The program of a command is the one that is expected of its action. -/
theorem program?_of_translate {c : Command}
    (translated : { t with withSudo := false }.translate a p = .ok c) :
    a.program? t p = some c.program := by
  have made := Translator.invocation_of_translate _ p translated
  have tool (kind : a.kind = .install ∨ a.kind = .pipInstall) : a.program? t p = some c.program := by
    obtain ⟨tool, found, made⟩ := Translator.invocation_eq_packageCommand kind made
    have program : c.program = tool := by
      rw [Command.program, made]
      rfl
    rw [program?_eq_packageTool? kind, program]
    exact found
  cases kind : a.kind with
  | install => exact tool (.inl kind)
  | pipInstall => exact tool (.inr kind)
  | run =>
    have line := Translator.invocation_ok _ p made
    rw [if_pos kind] at line
    simp only [program?, kind, Command.program, line]
  | refresh =>
    have served := ((Translator.exists_command_iff _ p a).mp ⟨c, translated⟩).1
    have known : p.family ≠ .other := by simpa [Platform.lacks, kind, ActionKind.isAgnostic] using served
    let base := t.refreshBase p.family
    have started : c.invocation = .exec base.program (base.args ++ []) := by
      rw [Translator.invocation, if_neg (by simp [known]), kind] at made
      exact (Except.ok.inj made).symm
    simp only [program?, kind, t.packageManager?_eq_some known, Command.program, started, base]

end Action

namespace Plan

theorem ascending_addName (name : String) {names : List String}
    (ascending : names.Pairwise (· < ·)) : (addName name names).Pairwise (· < ·) := by
  induction names with
  | nil => simp [addName]
  | cons head rest ih =>
    obtain ⟨above, tail⟩ := List.pairwise_cons.mp ascending
    simp only [addName]
    split
    · exact ascending
    · split
      · rename_i lower
        refine List.pairwise_cons.mpr ⟨?_, ascending⟩
        intro other member
        rcases List.mem_cons.mp member with rfl | later
        · exact lower
        · exact String.lt_trans lower (above other later)
      · rename_i differ notLower
        refine List.pairwise_cons.mpr ⟨?_, ih tail⟩
        intro other member
        rcases mem_addName.mp member with rfl | later
        · exact Std.lt_of_le_of_ne (String.not_lt.mp notLower) (Ne.symm differ)
        · exact above other later

variable {p : Platform} {t : Translator}

/-- The programs of actions, put to the names that were there before. -/
def gather (p : Platform) (t : Translator) (names : List String) (actions : List Action) : List String :=
  actions.foldl (fun names a => (a.program? t p).elim names fun name => addName name names) names

theorem mem_gather {actions : List Action} {names : List String} {name : String} :
    name ∈ gather p t names actions ↔ name ∈ names ∨ ∃ a ∈ actions, a.program? t p = some name := by
  unfold gather
  induction actions generalizing names with
  | nil => simp
  | cons a rest ih =>
    rw [List.foldl_cons, ih]
    cases program : a.program? t p with
    | none => simp [program]
    | some own =>
      simp only [Option.elim_some, mem_addName, List.exists_mem_cons_iff, program, Option.some.injEq]
      rw [or_assoc, or_left_comm, @eq_comm _ own]

theorem ascending_gather (actions : List Action) {names : List String}
    (ascending : names.Pairwise (· < ·)) : (gather p t names actions).Pairwise (· < ·) := by
  unfold gather
  induction actions generalizing names with
  | nil => exact ascending
  | cons a rest ih =>
    rw [List.foldl_cons]
    cases a.program? t p with
    | none => exact ih ascending
    | some own => exact ih (ascending_addName own ascending)

theorem programs_eq (plan : Plan) (p : Platform) (t : Translator) :
    plan.programs p t = gather p t [] ((plan.steps.map (·.2)).filter (·.appliesTo p)) := rfl

theorem mem_programs_iff {plan : Plan} {name : String} :
    name ∈ plan.programs p t ↔
      ∃ step ∈ plan.steps, step.2.appliesTo p = true ∧ step.2.program? t p = some name := by
  simp only [programs_eq, mem_gather, List.not_mem_nil, false_or, List.mem_filter, List.mem_map]
  constructor
  · rintro ⟨_, ⟨⟨step, member, rfl⟩, applies⟩, program⟩
    exact ⟨step, member, applies, program⟩
  · rintro ⟨step, member, applies, program⟩
    exact ⟨step.2, ⟨⟨step, member, rfl⟩, applies⟩, program⟩

/-- What the commands of a plan start on a host, of those actions that apply and have one. -/
def Starts (p : Platform) (t : Translator) (plan : Plan) (name : String) : Prop :=
  ∃ step ∈ plan.steps, step.2.appliesTo p = true ∧
    ∃ c, t.translate step.2 p = .ok c ∧ c.program = name

theorem mem_programs_of_starts {plan : Plan} {name : String}
    (starts : plan.Starts p { t with withSudo := false } name) : name ∈ plan.programs p t := by
  obtain ⟨step, member, applies, c, translated, rfl⟩ := starts
  exact mem_programs_iff.mpr ⟨step, member, applies, Action.program?_of_translate translated⟩

/-- A plan is checked for every program that a command of it starts when no rights are asked for, and
for nothing else if all its actions that apply have a command. The names stand in ascending order,
each once, and whether rights may be asked for makes no difference to them. -/
theorem programs_are_those_started (plan : Plan) (p : Platform) (t : Translator) :
    let plain := { t with withSudo := false }
    (∀ name, plan.Starts p plain name → name ∈ plan.programs p t) ∧
      ((∀ step ∈ plan.steps, step.2.appliesTo p = true → ∃ c, t.translate step.2 p = .ok c) →
        ∀ name, name ∈ plan.programs p t ↔ plan.Starts p plain name) ∧
      (plan.programs p t).Pairwise (· < ·) ∧
      ∀ asks, plan.programs p { t with withSudo := asks } = plan.programs p t := by
  intro plain
  refine ⟨fun _ => mem_programs_of_starts, ?exact, ascending_gather _ .nil, fun _ => rfl⟩
  case exact =>
    intro complete name
    refine ⟨?_, mem_programs_of_starts⟩
    intro member
    obtain ⟨step, place, applies, program⟩ := mem_programs_iff.mp member
    -- having a command does not hang on the rights
    obtain ⟨c, translated⟩ : ∃ c, plain.translate step.2 p = .ok c := by
      have command := complete step place applies
      rw [Translator.exists_command_iff] at command ⊢
      exact command
    have same : some c.program = some name := (Action.program?_of_translate translated).symm.trans program
    exact ⟨step, place, applies, c, translated, Option.some.inj same⟩

end Plan
end HostSetup
