import HostSetup.Platform.OsRelease
import HostSetup.Error

/-!
Which platform a host is.
-/
namespace HostSetup

/-- What a host tells about itself. A file that cannot be read and a tool that fails leave their
fields unknown. -/
structure HostFacts where
  os : String
  arch : String
  osRelease : Option String
  productVersion : Option String
  deriving Repr

/-- Only an unknown operating system is an error. -/
def Platform.detect (facts : HostFacts) : Except SetupError Platform :=
  if facts.os = "linux" then .ok (.ofOsRelease (facts.osRelease.getD "") facts.arch)
  else if facts.os = "macos" then .ok (.macos (facts.productVersion.getD "") facts.arch)
  else .error (.detection ("unrecognized operating system '" ++ facts.os ++ "'"))

end HostSetup
