import HostSetup.Action.Basic
import HostSetup.Command
import HostSetup.Error
import HostSetup.Override
import HostSetup.Text.Substitution

/-!
From abstract actions to the commands of a package-manager family.

| family | install              | refresh              |
|--------|----------------------|----------------------|
| debian | apt-get install -y   | apt-get update -qq   |
| redhat | yum/dnf install -y   | yum/dnf makecache    |
| arch   | pacman -S --noconfirm, or the helper for user packages | pacman -Sy |
| macos  | brew install         | brew update          |

Shell commands are the same everywhere, Python packages the same on every known family.
-/
namespace HostSetup

inductive RedhatManager
  | yum
  | dnf
  deriving DecidableEq, Repr, Inhabited

namespace RedhatManager

def all : List RedhatManager := [.yum, .dnf]

def name : RedhatManager → String
  | .yum => "yum"
  | .dnf => "dnf"

def ofName? (s : String) : Option RedhatManager := all.find? (·.name == s)

theorem ofName?_name (manager : RedhatManager) : ofName? manager.name = some manager := by
  cases manager <;> decide

end RedhatManager

structure Translator where
  python : String := "python3"
  readies : String := "deps/readies"
  aurHelper : String := "yay"
  redhatManager : RedhatManager := .yum
  withSudo : Bool := false
  dryRun : Bool := false
  overrides : PackageOverrides := {}
  deriving DecidableEq, Repr, Inhabited

/-- What a host has to run commands with. -/
structure HostTools where
  hasDnf : Bool
  hasSudo : Bool
  /-- Its user is the administrator already. -/
  isRoot : Bool
  deriving DecidableEq, Repr, Inhabited

namespace Translator

/-- The program that installs packages for a family. -/
def packageManager? (t : Translator) : Family → Option String
  | .debian => some "apt-get"
  | .redhat => some t.redhatManager.name
  | .arch => some "pacman"
  | .macos => some "brew"
  | .other => none

/-- Puts in the interpreter first, then the directory of the helper scripts. -/
def expand (t : Translator) (line : String) : String :=
  Text.substitute "{readies}" t.readies (Text.substitute "{python}" t.python line)

/-- What a family runs: a program, the arguments it starts with, and whether it needs the rights
of the system's administrator. -/
structure Base where
  program : String
  args : List String
  privileged : Bool
  deriving DecidableEq, Repr

def installBase? (t : Translator) (fromAur : Bool) : Family → Option Base
  | .debian => some ⟨"apt-get", ["install", "-y"], true⟩
  | .redhat => some ⟨t.redhatManager.name, ["install", "-y"], true⟩
  | .arch =>
    if fromAur then some ⟨t.aurHelper, ["-S", "--noconfirm"], false⟩
    else some ⟨"pacman", ["-S", "--noconfirm"], true⟩
  | .macos => some ⟨"brew", ["install"], false⟩
  | .other => none

/-- A family without a package manager has nothing to refresh, and is turned away before. -/
def refreshBase (t : Translator) : Family → Base
  | .debian => ⟨"apt-get", ["update", "-qq"], true⟩
  | .redhat => ⟨t.redhatManager.name, ["makecache"], true⟩
  | .arch => ⟨"pacman", ["-Sy"], true⟩
  | .macos => ⟨"brew", ["update"], false⟩
  | .other => ⟨"true", [], false⟩

def invoke (t : Translator) (base : Base) (args : List String) : Invocation :=
  if t.withSudo && base.privileged then .exec "sudo" (base.program :: base.args ++ args)
  else .exec base.program (base.args ++ args)

def unsupported (kind : ActionKind) (family : Family) : SetupError :=
  .unsupported kind.name family.name

def runLine (t : Translator) (payload : Payload) : Except SetupError Invocation :=
  let line := t.expand payload.text
  if line.isEmpty then .error (.invalidAction "run with an empty command") else .ok (.shell line)

def installPackages (t : Translator) (a : Action) (p : Platform) : Except SetupError Invocation :=
  let packages := a.payload.words.map (t.overrides.resolve p)
  if packages.isEmpty then .error (.invalidAction "install with no packages")
  else match t.installBase? a.options.fromAur p.family with
    | some base => .ok (t.invoke base packages)
    | none => .error (unsupported a.kind p.family)

def pipInstall (t : Translator) (payload : Payload) : Except SetupError Invocation :=
  if payload.words.isEmpty then .error (.invalidAction "pip-install with an empty spec")
  else .ok (.exec t.python (["-m", "pip", "install"] ++ payload.words))

def refresh (t : Translator) (family : Family) : Invocation := t.invoke (t.refreshBase family) []

/-- A family without a package manager has commands for the agnostic kinds only, whatever the
payload. -/
def invocation (t : Translator) (a : Action) (p : Platform) : Except SetupError Invocation :=
  if p.family = .other ∧ ¬a.kind.isAgnostic then .error (unsupported a.kind p.family)
  else match a.kind with
    | .run => t.runLine a.payload
    | .install => t.installPackages a p
    | .pipInstall => t.pipInstall a.payload
    | .refresh => .ok (t.refresh p.family)

def translate (t : Translator) (a : Action) (p : Platform) : Except SetupError Command :=
  (t.invocation a p).map fun invocation => ⟨invocation, t.dryRun⟩

/-- Fits the translator to a host. Rights are asked for only where they are allowed and needed, and
there is a program to ask. -/
def forHost (t : Translator) (tools : HostTools) (allowSudo : Bool) : Translator :=
  { t with
    redhatManager := if tools.hasDnf then .dnf else t.redhatManager
    withSudo := allowSudo && !tools.isRoot && tools.hasSudo }

end Translator
end HostSetup
