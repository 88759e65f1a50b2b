/-!
Package-manager families of hosts.
-/
namespace HostSetup

inductive Family
  | debian
  | redhat
  | arch
  | macos
  | other
  deriving DecidableEq, Repr, Inhabited

namespace Family

def all : List Family := [.debian, .redhat, .arch, .macos, .other]

def name : Family → String
  | .debian => "debian"
  | .redhat => "redhat"
  | .arch => "arch"
  | .macos => "macos"
  | .other => "other"

def ofName? (s : String) : Option Family := all.find? (·.name == s)

/-- The phase for all hosts of the family. -/
def compatPhase (f : Family) : String := f.name ++ "-compat"

/-- The family of a distribution, if it is a known one. -/
def ofDistro? (id : String) : Option Family :=
  if id ∈ ["debian", "ubuntu", "linuxmint", "pop", "raspbian", "elementary", "kali"] then some .debian
  else if id ∈ ["fedora", "rhel", "centos", "rocky", "almalinux", "ol", "amzn"] then some .redhat
  else if id ∈ ["arch", "archlinux", "manjaro", "endeavouros"] then some .arch
  else none

theorem ofName?_name (f : Family) : ofName? f.name = some f := by
  cases f <;> decide

end Family
end HostSetup
