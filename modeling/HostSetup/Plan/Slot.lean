import HostSetup.Platform.Basic

/-!
The slots of a plan. Their order is fixed: what all hosts share stands around what only some need.
-/
namespace HostSetup

inductive Slot
  | commonFirst
  | familyCompat
  | distro
  | os
  | commonLast
  deriving DecidableEq, Repr, Inhabited

namespace Slot

/-- In the order in which they are run. -/
def all : List Slot := [.commonFirst, .familyCompat, .distro, .os, .commonLast]

def name : Slot → String
  | .commonFirst => "common-first"
  | .familyCompat => "family-compat"
  | .distro => "distro"
  | .os => "os"
  | .commonLast => "common-last"

/-- The phase that fills the slot on a host. A host without a distribution has none for it, and one
that is called like its operating system has the phase of that name in the earlier slot only. -/
def phaseName? (p : Platform) : Slot → Option String
  | .commonFirst => some Slot.commonFirst.name
  | .familyCompat => some p.family.compatPhase
  | .distro => if p.distro.isEmpty then none else some p.distro
  | .os => if p.os = p.distro then none else some p.os
  | .commonLast => some Slot.commonLast.name

def isCommon (s : Slot) : Bool := s = .commonFirst || s = .commonLast

end Slot
end HostSetup
