import HostSetup.Execution.Basic
import HostSetup.Process.Group

/-!
Commands under a limit. A command has ended when its leader is gone and its output is closed; other
processes of its group may hold the output open. What is not over in time is ended by force. That the
clock can show the deadline is taken for granted here; `Launcher.awaitWithin` is about one that it
cannot show.
-/
namespace HostSetup

/-- The course a started command takes when it is left alone. -/
structure Course where
  /-- When the leader ends, and how. -/
  exit : Option (Duration × ExitStatus)
  /-- When nothing holds its output open any more. -/
  closed : Option Duration
  /-- The group, should it be asked to end. -/
  group : ProcessGroup

inductive Supervised
  | finished (status : ExitStatus)
  /-- The leader did not end in time. -/
  | terminated (termination : Termination)
  /-- The leader ended, but its output stayed open too long, and the group was killed. -/
  | cutOff (status : ExitStatus)
  deriving DecidableEq, Repr

namespace Course

/-- How long a group may take to end when it is asked to. -/
def grace : Duration := .ofSeconds 5

def statusAt (elapsed : Duration) (c : Course) : Option ExitStatus :=
  c.exit.bind fun (time, status) =>
    if time.nanoseconds ≤ elapsed.nanoseconds then some status else none

def looks (clock : Nat → Duration) (count : Nat) (c : Course) : List Waiting.Look :=
  (List.range count).map fun n => ⟨.ok (c.statusAt (clock n)), clock n⟩

def isClosedBy (limit : Duration) (c : Course) : Bool :=
  c.closed.any fun time => time.nanoseconds ≤ limit.nanoseconds

/-- What becomes of the command when it is decided whether its leader ended in time. Its output counts
as closed in time up to the limit. The last look may be later than that, and output that is closed
between the two is still taken by the program, while it is cut off here. -/
def outcome? (limit : Duration) (graceClock : Nat → Duration) (c : Course) :
    Waiting.Verdict → Option Supervised
  | .exited status _ => some (if c.isClosedBy limit then .finished status else .cutOff status)
  | .expired _ => (c.group.terminate? grace graceClock).map .terminated
  | .broken _ => none

/-- Two clocks are read: from the start of the command, and from the request to end. None if one of
them stands still. -/
def supervise? (limit : Duration) (clock graceClock : Nat → Duration) (c : Course) : Option Supervised :=
  (Waiting.verdict? limit (c.looks clock (Waiting.enough limit))).bind (c.outcome? limit graceClock)

end Course

/-- The answer about a command, with what it wrote. -/
def Supervised.answer (command : Command) (limit : Duration) (stdout stderr : String) :
    Supervised → Except SetupError CommandOutput
  | .finished status => .ok ⟨stdout, stderr, status.code?, status.isSuccess⟩
  | .terminated _ | .cutOff _ => .error (.timeout command.render limit)

end HostSetup
