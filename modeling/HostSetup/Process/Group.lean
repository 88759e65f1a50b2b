import HostSetup.Process.Waiting

/-!
Ending a group of processes. The group is asked to end; its leader is then waited for, and if it is
still there when the grace is over, the whole group is killed.
-/
namespace HostSetup

/-- A process that is asked to end: the time it takes to be gone, or none if it ignores that. -/
structure GroupMember where
  leaves : Option Duration
  status : ExitStatus
  deriving DecidableEq, Repr

namespace GroupMember

def isGone (elapsed : Duration) (g : GroupMember) : Bool :=
  g.leaves.any fun time => time.nanoseconds ≤ elapsed.nanoseconds

/-- What is seen of it. -/
def statusAt (elapsed : Duration) (g : GroupMember) : Option ExitStatus :=
  if g.isGone elapsed then some g.status else none

end GroupMember

structure ProcessGroup where
  leader : GroupMember
  others : List GroupMember
  deriving DecidableEq, Repr

/-- The end of a group: the status of its leader, the time when it was known, and whether the group
was killed. -/
structure Termination where
  status : ExitStatus
  elapsed : Duration
  killed : Bool
  deriving DecidableEq, Repr

namespace ProcessGroup

def members (g : ProcessGroup) : List GroupMember := g.leader :: g.others

def killedStatus : ExitStatus := .signal 9

/-- Looks at the leader, at the times that the clock shows. -/
def looks (clock : Nat → Duration) (count : Nat) (g : ProcessGroup) : List Waiting.Look :=
  (List.range count).map fun n => ⟨.ok (g.leader.statusAt (clock n)), clock n⟩

/-- What becomes of the group when it is decided whether its leader ended in the grace. -/
def ending? : Waiting.Verdict → Option Termination
  | .exited status elapsed => some ⟨status, elapsed, false⟩
  | .expired elapsed => some ⟨killedStatus, elapsed, true⟩
  | .broken _ => none

/-- None if the clock stands still. -/
def terminate? (grace : Duration) (clock : Nat → Duration) (g : ProcessGroup) : Option Termination :=
  (Waiting.verdict? grace (g.looks clock (Waiting.enough grace))).bind ending?

/-- Members that are still there when the group is taken to have ended. -/
def survivors (g : ProcessGroup) (t : Termination) : List GroupMember :=
  if t.killed then [] else g.members.filter fun member => !member.isGone t.elapsed

end ProcessGroup
end HostSetup
