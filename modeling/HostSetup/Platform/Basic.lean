import HostSetup.Platform.Family
import HostSetup.Text.Blank

/-!
What is known of the host: its operating system, family, distribution, release and architecture.
-/
namespace HostSetup

/-- The operating system follows from the family. Distribution and release are empty where they
are not known. -/
structure Platform where
  family : Family
  distro : String
  version : String
  arch : String
  deriving DecidableEq, Repr, Inhabited

namespace Platform

def os (p : Platform) : String :=
  match p.family with
  | .macos => "macos"
  | _ => "linux"

def macos (version arch : String) : Platform := ⟨.macos, "macos", Text.trim version, arch⟩

def render (p : Platform) : String :=
  p.os ++ "/" ++ (if p.distro.isEmpty then "unknown" else p.distro) ++ " " ++ p.family.name ++
    (if p.version.isEmpty then "" else " " ++ p.version) ++ " (" ++ p.arch ++ ")"

end Platform
end HostSetup
