import HostSetup.Proofs.Action.NormalForm
import HostSetup.Proofs.Text.Blank
import HostSetup.Proofs.Translation.Rights

/-!
The packages of an action on the command line. Each word of the payload becomes one argument, in the
order of the payload, behind arguments that depend on the kind and the family only. So how the words
are grouped, in one text or in pieces, makes no difference; and no word is lost or merged with
another, since payloads with different words have different commands on some host.
-/
namespace HostSetup

theorem Payload.words_text (payload : Payload) : Text.words payload.text = payload.words := by
  cases payload with
  | one s => exact Text.words_trim s
  | many items => exact Text.words_intercalate items

/-- What stands in front of the packages. -/
def ActionKind.leadingArgs : ActionKind → Family → List String
  | .install, .debian | .install, .redhat => ["install", "-y"]
  | .install, .arch => ["-S", "--noconfirm"]
  | .install, .macos => ["install"]
  | .pipInstall, _ => ["-m", "pip", "install"]
  | _, _ => []

namespace Translator

variable (t : Translator) (p : Platform)

/-- Each word as the argument that it becomes. -/
def packageArgs (a : Action) : List String :=
  match a.kind with
  | .install => a.payload.words.map (t.overrides.resolve p)
  | _ => a.payload.words

/-- The program that is given the packages. -/
def packageTool? (a : Action) : Option String :=
  match a.kind with
  | .install =>
    if p.family = .arch ∧ a.options.fromAur = true then some t.aurHelper else t.packageManager? p.family
  | .pipInstall => some t.python
  | _ => none

variable {t p} {a : Action}

theorem packageTool?_of_installBase? {base : Base} (kind : a.kind = .install)
    (found : t.installBase? a.options.fromAur p.family = some base) :
    t.packageTool? p a = some base.program ∧ base.args = a.kind.leadingArgs p.family := by
  rcases t.installBase?_cases found with ⟨family, rfl⟩ | ⟨family, rfl⟩ | ⟨family, aur, rfl⟩ |
    ⟨family, aur, rfl⟩ | ⟨family, rfl⟩ <;>
    simp_all [packageTool?, packageManager?, ActionKind.leadingArgs]

/-- A command with the packages of an action behind everything else. -/
def packageCommand (t : Translator) (p : Platform) (a : Action) (tool : String) : Invocation :=
  let args := a.kind.leadingArgs p.family ++ t.packageArgs p a
  if t.withSudo && a.needsRights p then .exec "sudo" (tool :: args) else .exec tool args

theorem invoke_eq_packageCommand {base : Base} (kind : a.kind = .install)
    (found : t.installBase? a.options.fromAur p.family = some base) :
    t.invoke base (a.payload.words.map (t.overrides.resolve p)) =
      t.packageCommand p a base.program := by
  obtain ⟨_, leading⟩ := packageTool?_of_installBase? kind found
  rw [invoke, privileged_of_installBase? t p kind found, leading]
  simp [packageCommand, packageArgs, kind]

theorem exec_eq_packageCommand (kind : a.kind = .pipInstall) :
    .exec t.python (["-m", "pip", "install"] ++ a.payload.words) = t.packageCommand p a t.python := by
  simp [packageCommand, packageArgs, ActionKind.leadingArgs, Action.needsRights, kind]

theorem invocation_eq_packageCommand {i : Invocation}
    (kind : a.kind = .install ∨ a.kind = .pipInstall) (made : t.invocation a p = .ok i) :
    ∃ tool, t.packageTool? p a = some tool ∧ i = t.packageCommand p a tool := by
  rw [invocation] at made
  split at made
  · contradiction
  · rcases kind with kind | kind
    · rw [kind] at made
      obtain ⟨base, found, rfl⟩ := t.installPackages_ok p made
      obtain ⟨tool, _⟩ := packageTool?_of_installBase? kind found
      exact ⟨base.program, tool, invoke_eq_packageCommand kind found⟩
    · rw [kind] at made
      obtain rfl := t.pipInstall_ok made
      exact ⟨t.python, by simp [packageTool?, kind], exec_eq_packageCommand kind⟩

/-- A translator that replaces nothing, on some host with a package manager. -/
def bareTranslation (a : Action) : Except SetupError Command :=
  ({} : Translator).translate a ⟨.debian, "", "", ""⟩

/-- What can be read off the answer for an action: its words again. -/
def shownWords (kind : ActionKind) : Except SetupError Command → List String
  | .ok c => c.args.drop (kind.leadingArgs .debian).length
  | .error _ => []

theorem shownWords_bareTranslation (a : Action) (kind : a.kind = .install ∨ a.kind = .pipInstall) :
    shownWords a.kind (bareTranslation a) = a.payload.words := by
  unfold bareTranslation
  -- of the host only the family matters
  generalize host : (⟨.debian, "", "", ""⟩ : Platform) = p
  have family : p.family = .debian := by rw [← host]
  cases translated : ({} : Translator).translate a p with
  | error e =>
    have nothing : a.payload.words = [] := by
      rcases (translate_error_iff {} p a e).mp translated with ⟨lacks, _⟩ | ⟨_, nothing, _⟩
      · simp [Platform.lacks, family] at lacks
      · rcases kind with kind | kind <;> simpa [findsNothing, kind] using nothing
    rw [nothing]
    rfl
  | ok c =>
    have made := invocation_of_translate {} p translated
    obtain ⟨tool, _, made⟩ := invocation_eq_packageCommand kind made
    have args : c.args = a.kind.leadingArgs .debian ++ ({} : Translator).packageArgs p a := by
      rw [← family, Command.args, made]
      rfl
    have kept : ({} : Translator).packageArgs p a = a.payload.words := by
      rcases kind with kind | kind
      · simp only [packageArgs, kind]
        exact List.map_id _
      · simp only [packageArgs, kind]
    rw [shownWords, args, List.drop_left, kept]

theorem words_eq_of_bareTranslation_eq {b : Action} (kind : a.kind = .install ∨ a.kind = .pipInstall)
    (kinds : b.kind = a.kind) (same : bareTranslation b = bareTranslation a) :
    b.payload.words = a.payload.words := by
  rw [← shownWords_bareTranslation a kind, ← shownWords_bareTranslation b (kinds ▸ kind), kinds, same]

/-- The words of a payload are those of its text. Where an action installs packages or Python
packages, its command is a program with arguments fixed by the kind and the family, behind the
program that gives the rights if these are asked for and needed, and then one argument for each
word, in their order: the word, or what replaces the package of this name. So the same words have
the same command everywhere, whatever the payload, and other words have another one somewhere. -/
theorem packages_kept (a : Action) :
    Text.words a.payload.text = a.payload.words ∧
      (a.kind = .install ∨ a.kind = .pipInstall →
        (∀ (t : Translator) (p : Platform) (c : Command), t.translate a p = .ok c →
          ∃ tool, t.packageTool? p a = some tool ∧
            let args := a.kind.leadingArgs p.family ++ t.packageArgs p a
            c.invocation =
              if t.withSudo && a.needsRights p then .exec "sudo" (tool :: args)
              else .exec tool args) ∧
        ∀ other : Payload,
          (∀ (t : Translator) (p : Platform),
            t.translate { a with payload := other } p = t.translate a p) ↔
            Text.words other.text = Text.words a.payload.text) := by
  refine ⟨a.payload.words_text, fun kind => ⟨?arguments, fun other => ⟨?words, ?command⟩⟩⟩
  case arguments =>
    intro t p c translated
    exact invocation_eq_packageCommand kind (t.invocation_of_translate p translated)
  case words =>
    intro same
    rw [other.words_text, a.payload.words_text]
    exact words_eq_of_bareTranslation_eq (b := { a with payload := other }) kind rfl (same {} _)
  case command =>
    intro words
    rw [other.words_text, a.payload.words_text] at words
    have views : ({ a with payload := other } : Action).view = a.view := by
      rcases kind with kind | kind <;> simp [Action.view, kind, words]
    have same : ({ a with payload := other } : Action).normalized = a.normalized :=
      Action.normalized_eq_iff.mpr ⟨rfl, rfl, rfl, views⟩
    exact translate_congr same

end Translator
end HostSetup
