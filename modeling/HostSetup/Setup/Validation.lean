import HostSetup.Setup.Basic

/-!
Setups that can be run. The first trouble is reported: the tools come first, then the phases in the
order of their names, then the overrides.
-/
namespace HostSetup

/-- An action that has nothing to work on. -/
def Action.isBare (a : Action) : Bool :=
  match a.kind with
  | .run => a.payload.text.isEmpty
  | .install | .pipInstall => a.payload.words.isEmpty
  | .refresh => false

def PackageOverride.isIncomplete (o : PackageOverride) : Bool :=
  o.distro.isEmpty || o.package.isEmpty || o.replacement.isEmpty

namespace Setup

def isBlankText (s : String) : Bool := (Text.trim s).isEmpty

def validateTools (c : Setup) : Except SetupError Unit :=
  if isBlankText c.python then .error (.config "python interpreter must not be empty")
  else if isBlankText c.aurHelper then .error (.config "aur_helper must not be empty")
  else if c.timeoutSecs = some 0 then .error (.config "timeout_secs must be greater than zero")
  else .ok ()

def validatePhase (phase : String) (actions : List Action) : Except SetupError Unit :=
  if isBlankText phase then .error (.config "phase name must not be empty")
  else match actions.find? (·.isBare) with
    | some a => .error (.config ("empty " ++ a.kind.name ++ " action in phase '" ++ phase ++ "'"))
    | none => .ok ()

def validateOverride (o : PackageOverride) : Except SetupError Unit :=
  if o.isIncomplete then .error (.config ("incomplete override for package '" ++ o.package ++ "'"))
  else .ok ()

def validate (c : Setup) : Except SetupError Unit := do
  c.validateTools
  c.phases.entries.forM fun entry => validatePhase entry.1 entry.2
  c.overrides.forM validateOverride

end Setup
end HostSetup
