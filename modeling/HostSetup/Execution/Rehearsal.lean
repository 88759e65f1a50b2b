import HostSetup.Execution.Basic

/-!
Rehearsals: commands are not started but answered from a script, and what was asked for is written
down.
-/
namespace HostSetup

structure Call where
  command : Command
  timeout : Option Duration
  deriving DecidableEq, Repr, Inhabited

/-- An answer, which may speak of the command it is given for. -/
abbrev Cue := Command → Except SetupError CommandOutput

structure Rehearsal where
  cues : List Cue
  /-- Latest first. -/
  past : List Call := []

namespace Rehearsal

def calls (r : Rehearsal) : List Call := r.past.reverse

/-- The next answer of the script; behind its end every command succeeds without output. -/
def runner : Runner (StateM Rehearsal) := fun command timeout => do
  let r ← get
  set { r with cues := r.cues.tail, past := ⟨command, timeout⟩ :: r.past : Rehearsal }
  match r.cues with
  | [] => return .ok (.ok "")
  | cue :: _ => return cue command

/-- Several runs of one plan on one script. -/
def perform (ex : Executor) (p : Platform) (plan : Plan) : Nat → StateM Rehearsal (List Report)
  | 0 => return []
  | runs + 1 => do
    let report ← ex.execute runner p plan
    let reports ← perform ex p plan runs
    return report :: reports

end Rehearsal
end HostSetup
