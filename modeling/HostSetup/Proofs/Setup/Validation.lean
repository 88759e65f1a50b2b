import HostSetup.Proofs.Setup.Registration
import HostSetup.Proofs.Text.Substitution
import HostSetup.Proofs.Translation.Support
import HostSetup.Setup.Validation

/-!
What a valid setup promises of its translation. Its actions all have something to work on as they
are written, and this is lost in one way only: a command line that holds nothing but places for the
directory of the helper scripts, in a setup where that directory has the empty name.
-/
namespace HostSetup

theorem forM_eq_ok_iff {ε α : Type} {check : α → Except ε Unit} {items : List α} :
    items.forM check = .ok () ↔ ∀ item ∈ items, check item = .ok () := by
  induction items with
  | nil => simp [List.forM, pure, Except.pure]
  | cons item rest ih =>
    rw [List.forall_mem_cons, ← ih]
    change (check item >>= fun _ => rest.forM check) = .ok () ↔ _
    cases check item <;> simp [bind, Except.bind]

namespace Setup

variable {c : Setup}

theorem validate_eq_ok_iff :
    c.validate = .ok () ↔
      c.validateTools = .ok () ∧
        (∀ entry ∈ c.phases.entries, validatePhase entry.1 entry.2 = .ok ()) ∧
        ∀ o ∈ c.overrides, validateOverride o = .ok () := by
  rw [validate, ← forM_eq_ok_iff, ← forM_eq_ok_iff]
  cases c.validateTools with
  | error e => simp [bind, Except.bind]
  | ok _ =>
    cases c.phases.entries.forM fun entry => validatePhase entry.1 entry.2 <;>
      simp [bind, Except.bind]

theorem validateTools_eq_ok_iff :
    c.validateTools = .ok () ↔
      isBlankText c.python = false ∧ isBlankText c.aurHelper = false ∧ c.timeoutSecs ≠ some 0 := by
  rw [validateTools]
  cases isBlankText c.python <;> cases isBlankText c.aurHelper <;> simp

theorem validatePhase_eq_ok_iff {phase : String} {actions : List Action} :
    validatePhase phase actions = .ok () ↔
      isBlankText phase = false ∧ ∀ a ∈ actions, a.isBare = false := by
  rw [validatePhase]
  cases isBlankText phase with
  | true => simp
  | false =>
    cases found : actions.find? (·.isBare) with
    | none => simpa using found
    | some a =>
      have bare := List.find?_some found
      have member := List.mem_of_find?_eq_some found
      simp only [Bool.false_eq_true, if_false, reduceCtorEq, true_and, false_iff]
      intro given
      simp [given a member] at bare

end Setup

/-- A line with something in it expands to nothing only by an empty replacement. -/
theorem Translator.expand_eq_empty {t : Translator} {line : String} (interpreter : t.python ≠ "")
    (written : line ≠ "") (empty : t.expand line = "") : t.readies = "" := by
  by_cases directory : t.readies = ""
  · exact directory
  · rw [expand, Text.substitute_eq_empty_iff directory,
      Text.substitute_eq_empty_iff interpreter] at empty
    contradiction

theorem Translator.findsNothing_iff {t : Translator} {a : Action} (interpreter : t.python ≠ "")
    (given : a.isBare = false) :
    t.findsNothing a = true ↔
      t.readies = "" ∧ a.kind = .run ∧ t.expand a.payload.text = "" := by
  unfold Action.isBare at given
  unfold findsNothing
  cases kind : a.kind with
  | run =>
    have written : a.payload.text ≠ "" := by simpa [kind] using given
    simp only [String.isEmpty_iff, true_and]
    exact ⟨fun empty => ⟨expand_eq_empty interpreter written empty, empty⟩, And.right⟩
  | install => simp_all
  | pipInstall => simp_all
  | refresh => simp

namespace Setup

theorem python_ne_empty {c : Setup} (valid : c.validate = .ok ()) : c.python ≠ "" := by
  intro empty
  obtain ⟨tools, _, _⟩ := validate_eq_ok_iff.mp valid
  have shown := (validateTools_eq_ok_iff.mp tools).1
  have blank : isBlankText "" = true := rfl
  rw [empty, blank] at shown
  contradiction

theorem isBare_of_mem_plan {c : Setup} (valid : c.validate = .ok ()) {p : Platform}
    {step : Plan.Step} (member : step ∈ (c.registry.plan p).steps) : step.2.isBare = false := by
  obtain ⟨_, phases, _⟩ := validate_eq_ok_iff.mp valid
  rcases mem_plan_steps member with refresh | ⟨entry, place, action⟩
  · rw [refresh]
    rfl
  · exact (validatePhase_eq_ok_iff.mp (phases entry place)).2 _ action

/-- On any host, and with whatever rights and package manager, an action of a valid setup has a
command unless the family lacks one for its kind, or its line is left empty by a directory of helper
scripts that has the empty name. -/
theorem valid_translate_error_iff (c : Setup) (valid : c.validate = .ok ()) (p : Platform)
    (manager : RedhatManager) (elevated dry : Bool) :
    let t := { c.translator with redhatManager := manager, withSudo := elevated, dryRun := dry }
    ∀ step ∈ (c.registry.plan p).steps, ∀ e, t.translate step.2 p = .error e ↔
      (p.lacks step.2.kind = true ∧ e = Translator.unsupported step.2.kind p.family) ∨
        (c.readies = "" ∧ step.2.kind = .run ∧ t.expand step.2.payload.text = "" ∧
          e = .invalidAction "run with an empty command") := by
  intro t step member e
  have interpreter : t.python ≠ "" := python_ne_empty valid
  have given := isBare_of_mem_plan valid member
  rw [t.translate_error_iff, t.findsNothing_iff interpreter given]
  refine or_congr_right ⟨?voided, ?refused⟩
  case voided =>
    rintro ⟨_, ⟨directory, kind, empty⟩, rfl⟩
    exact ⟨directory, kind, empty, by rw [kind]; rfl⟩
  case refused =>
    rintro ⟨directory, kind, empty, rfl⟩
    -- shell lines are the same for every family, so none lacks them
    have served : p.lacks step.2.kind = false := by simp [kind, Platform.lacks, ActionKind.isAgnostic]
    exact ⟨served, ⟨directory, kind, empty⟩, by rw [kind]; rfl⟩

/-- After the refresh, one command line that holds nothing but the place for the directory of the
helper scripts. -/
def directoryOnly (readies : String) : Setup where
  phases := ⟨[("common-first", [.run (.one "{readies}")])], by simp⟩
  readies := readies

/-- On a host whose family has no package manager. -/
theorem valid_translate_error_iff_unknown_family :
    let c := directoryOnly "deps/readies"
    let t := { c.translator with redhatManager := .dnf, withSudo := true, dryRun := false }
    let p : Platform := ⟨.other, "gentoo", "", "x86_64"⟩
    c.validate = .ok () ∧
      ∀ step ∈ (c.registry.plan p).steps, ∀ e, t.translate step.2 p = .error e ↔
        (p.lacks step.2.kind = true ∧ e = Translator.unsupported step.2.kind p.family) ∨
          (c.readies = "" ∧ step.2.kind = .run ∧ t.expand step.2.payload.text = "" ∧
            e = .invalidAction "run with an empty command") :=
  ⟨rfl, valid_translate_error_iff (directoryOnly "deps/readies") rfl _ .dnf true false⟩

/-- With the empty name for the directory the setup is valid, and yet one of its actions is refused. -/
theorem valid_yet_refused :
    let p : Platform := ⟨.debian, "ubuntu", "22.04", "x86_64"⟩
    let line : Action := .run (.one "{readies}")
    (directoryOnly "").validate = .ok () ∧
      ("common-first", line) ∈ ((directoryOnly "").registry.plan p).steps ∧
      (directoryOnly "").translator.translate line p =
        .error (.invalidAction "run with an empty command") :=
  ⟨rfl, .tail _ (.head _), rfl⟩

end Setup
end HostSetup
