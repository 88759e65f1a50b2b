/-!
What an action does, how it may be modified, and how it can end.
-/
namespace HostSetup

inductive ActionKind
  /-- Installs packages through the package manager of the family. -/
  | install
  /-- Runs a shell command as it stands. -/
  | run
  /-- Installs Python packages through the interpreter's own installer. -/
  | pipInstall
  /-- Refreshes the package manager's repository data. -/
  | refresh
  deriving DecidableEq, Repr, Inhabited

namespace ActionKind

def all : List ActionKind := [.install, .run, .pipInstall, .refresh]

def name : ActionKind → String
  | .install => "install"
  | .run => "run"
  | .pipInstall => "pip-install"
  | .refresh => "refresh"

def ofName? (s : String) : Option ActionKind := all.find? (·.name == s)

/-- The kinds that mean the same for every family. -/
def isAgnostic (k : ActionKind) : Bool := k = .run

theorem ofName?_name (k : ActionKind) : ofName? k.name = some k := by
  cases k <;> decide

end ActionKind

inductive ActionOption
  /-- On Arch, install through the helper for user packages. -/
  | fromAur
  /-- A command that does not succeed counts as skipped. -/
  | allowNoop
  deriving DecidableEq, Repr, Inhabited

namespace ActionOption

def all : List ActionOption := [.fromAur, .allowNoop]

def name : ActionOption → String
  | .fromAur => "from-aur"
  | .allowNoop => "allow-noop"

def ofName? (s : String) : Option ActionOption := all.find? (·.name == s)

theorem ofName?_name (o : ActionOption) : ofName? o.name = some o := by
  cases o <;> decide

end ActionOption

/-- A set of options. -/
structure ActionOptions where
  fromAur : Bool := false
  allowNoop : Bool := false
  deriving DecidableEq, Repr, Inhabited

namespace ActionOptions

def has (os : ActionOptions) : ActionOption → Bool
  | .fromAur => os.fromAur
  | .allowNoop => os.allowNoop

def insert (o : ActionOption) (os : ActionOptions) : ActionOptions :=
  match o with
  | .fromAur => { os with fromAur := true }
  | .allowNoop => { os with allowNoop := true }

def ofList (options : List ActionOption) : ActionOptions := options.foldl (fun os o => os.insert o) {}

/-- The options in their fixed order, each once. -/
def toList (os : ActionOptions) : List ActionOption := ActionOption.all.filter os.has

theorem has_insert (os : ActionOptions) (o p : ActionOption) :
    (os.insert o).has p = (decide (p = o) || os.has p) := by
  cases o <;> cases p <;> simp [insert, has]

theorem ofList_toList (os : ActionOptions) : ofList os.toList = os := by
  obtain ⟨fromAur, allowNoop⟩ := os
  cases fromAur <;> cases allowNoop <;> rfl

end ActionOptions

inductive Outcome
  | ok
  | skipped
  | failed
  deriving DecidableEq, Repr, Inhabited

namespace Outcome

def all : List Outcome := [.ok, .skipped, .failed]

def name : Outcome → String
  | .ok => "ok"
  | .skipped => "skipped"
  | .failed => "failed"

def ofName? (s : String) : Option Outcome := all.find? (·.name == s)

theorem ofName?_name (o : Outcome) : ofName? o.name = some o := by
  cases o <;> decide

end Outcome
end HostSetup
