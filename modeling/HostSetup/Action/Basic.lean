import HostSetup.Action.Kind
import HostSetup.Platform.Basic

/-!
Actions: abstract steps of a setup, each with what it is about and where it applies. Two actions
with the same normal form do the same everywhere.
-/
namespace HostSetup

/-- Packages, a command line or a package specification, as one text or in pieces. -/
inductive Payload
  | one (text : String)
  | many (items : List String)
  deriving DecidableEq, Repr, Inhabited

namespace Payload

def words : Payload → List String
  | .one s => Text.words s
  | .many items => items.flatMap Text.words

/-- As one command line. Pieces are joined as they are. -/
def text : Payload → String
  | .one s => Text.trim s
  | .many items => " ".intercalate items

end Payload

/-- Where an action applies. -/
inductive Guard
  | distroIs (distro : String)
  | distroIsNot (distro : String)
  | releaseIs (distro version : String)
  | releaseIsNot (distro version : String)
  | familyIs (family : Family)
  deriving DecidableEq, Repr, Inhabited

namespace Guard

def holds (p : Platform) : Guard → Bool
  | .distroIs distro => p.distro = distro
  | .distroIsNot distro => p.distro ≠ distro
  | .releaseIs distro version => p.distro = distro && p.version = version
  | .releaseIsNot distro version => !(p.distro = distro && p.version = version)
  | .familyIs family => p.family = family

def render : Guard → String
  | .distroIs distro => "distro == " ++ distro
  | .distroIsNot distro => "distro != " ++ distro
  | .releaseIs distro version => "release == " ++ distro ++ " " ++ version
  | .releaseIsNot distro version => "release != " ++ distro ++ " " ++ version
  | .familyIs family => "family == " ++ family.name

end Guard

structure Action where
  kind : ActionKind
  payload : Payload
  options : ActionOptions := {}
  guard : Option Guard := none
  deriving DecidableEq, Repr, Inhabited

namespace Action

def install (packages : Payload) : Action := { kind := .install, payload := packages }

def run (command : Payload) : Action := { kind := .run, payload := command }

def pipInstall (spec : Payload) : Action := { kind := .pipInstall, payload := spec }

def refresh : Action := { kind := .refresh, payload := .many [] }

def withOption (o : ActionOption) (a : Action) : Action := { a with options := a.options.insert o }

/-- Only where the guard holds. -/
def when (guard : Guard) (a : Action) : Action := { a with guard := some guard }

/-- The payload in the form in which it is passed on: words, or one line. -/
def normalized (a : Action) : Action :=
  { a with
    payload := match a.kind with
      | .install | .pipInstall => .many a.payload.words
      | .run | .refresh => .one a.payload.text }

def appliesTo (p : Platform) (a : Action) : Bool := a.guard.all (·.holds p)

def render (a : Action) : String :=
  a.kind.name ++ " " ++ a.payload.text ++
    String.join (a.options.toList.map fun o => " [" ++ o.name ++ "]")

end Action
end HostSetup
