import HostSetup.Process.Supervision
import HostSetup.Proofs.Process.Group

/-!
What a command that took too long leaves behind. If only its output stayed open, its group is killed
and nothing is left; but a group that is asked to end leaves those members behind that outlast a
leader which goes within the grace.
-/
namespace HostSetup.Course

variable {c : Course} {limit : Duration} {clock graceClock : Nat → Duration} {r : Supervised}

/-- Members of the group that are neither gone nor killed when the command is given up. One that
finished is not given up. -/
def abandoned (c : Course) : Supervised → List GroupMember
  | .terminated t => c.group.survivors t
  | .cutOff _ | .finished _ => []

theorem exists_supervised (steady : Waiting.Steady clock) (steadyGrace : Waiting.Steady graceClock)
    (limit : Duration) (c : Course) : ∃ r, c.supervise? limit clock graceClock = some r := by
  refine Waiting.exists_settled steady limit (fun n => c.statusAt (clock n)) ?exited ?expired
  case exited => exact fun _ _ => ⟨_, rfl⟩
  case expired =>
    intro elapsed
    obtain ⟨t, ended⟩ := ProcessGroup.exists_termination steadyGrace grace c.group
    exact ⟨.terminated t, by rw [outcome?, ended, Option.map_some]⟩

theorem terminate?_of_supervised {t : Termination}
    (ended : c.supervise? limit clock graceClock = some (.terminated t)) :
    c.group.terminate? grace graceClock = some t := by
  obtain ⟨v, _, settled⟩ := Option.bind_eq_some_iff.mp ended
  cases v with
  | exited status elapsed =>
    simp only [outcome?] at settled
    split at settled <;> simp at settled
  | expired elapsed =>
    obtain ⟨other, terminated, same⟩ := Option.map_eq_some_iff.mp settled
    rwa [Supervised.terminated.inj same] at terminated
  | broken cause => contradiction

theorem abandoned_eq_nil_iff (ended : c.supervise? limit clock graceClock = some r) :
    c.abandoned r = [] ↔ ∀ t, r = .terminated t → c.group.LeavesTogether t.elapsed := by
  cases r with
  | finished status => simp [abandoned]
  | cutOff status => simp [abandoned]
  | terminated t =>
    have survivors := ProcessGroup.survivors_eq_nil_iff (terminate?_of_supervised ended)
    simpa [abandoned] using survivors

/-- A group that is asked to end always comes to one, and so does a command under a limit. Members
are left, neither gone nor killed, just where they outlast a leader that went in time; only then can
a command be given up for the time it took while something of it is left. -/
theorem timeout_leaves_nothing_iff (c : Course) (limit period : Duration)
    (steady : Waiting.Steady clock) (steadyGrace : Waiting.Steady graceClock) (command : Command)
    (stdout stderr : String) :
    (∃ t, c.group.terminate? period graceClock = some t ∧
      (c.group.survivors t = [] ↔ c.group.LeavesTogether t.elapsed)) ∧
    ∃ r, c.supervise? limit clock graceClock = some r ∧
      ∀ e, r.answer command limit stdout stderr = .error e →
        e = .timeout command.render limit ∧
          (c.abandoned r = [] ↔ ∀ t, r = .terminated t → c.group.LeavesTogether t.elapsed) := by
  obtain ⟨t, terminated⟩ := ProcessGroup.exists_termination steadyGrace period c.group
  obtain ⟨r, supervised⟩ := exists_supervised steady steadyGrace limit c
  refine ⟨⟨t, terminated, ProcessGroup.survivors_eq_nil_iff terminated⟩, r, supervised, ?_⟩
  intro e refused
  have cause : e = .timeout command.render limit := by
    cases r with
    | finished status => simp [Supervised.answer] at refused
    | terminated t => exact (Except.error.inj refused).symm
    | cutOff status => exact (Except.error.inj refused).symm
  exact ⟨cause, abandoned_eq_nil_iff supervised⟩

/-- A leader that goes when it is asked to, and a member that does not. -/
def stubborn : Course where
  exit := none
  closed := none
  group := ⟨⟨some (.ofMilliseconds 10), .signal 15⟩, [⟨none, .signal 15⟩]⟩

def sleep : Command := ⟨.shell "sleep 20", false⟩

theorem timeout_leaves_nothing_iff_stubborn :
    Waiting.Steady Waiting.pausing ∧
    (∃ t, stubborn.group.terminate? grace Waiting.pausing = some t ∧
      (stubborn.group.survivors t = [] ↔ stubborn.group.LeavesTogether t.elapsed)) ∧
    ∃ r, stubborn.supervise? (.ofSeconds 1) Waiting.pausing Waiting.pausing = some r ∧
      ∀ e, r.answer sleep (.ofSeconds 1) "" "" = .error e →
        e = .timeout sleep.render (.ofSeconds 1) ∧
          (stubborn.abandoned r = [] ↔
            ∀ t, r = .terminated t → stubborn.group.LeavesTogether t.elapsed) :=
  ⟨Waiting.steady_pausing, timeout_leaves_nothing_iff stubborn (.ofSeconds 1) grace
    Waiting.steady_pausing Waiting.steady_pausing sleep "" ""⟩

/-- It is given up with the member still there, which was not killed. -/
theorem timeout_leaves_stubborn_member :
    let ended : Termination := ⟨.signal 15, .ofMilliseconds 50, false⟩
    stubborn.group.terminate? grace Waiting.pausing = some ended ∧
      stubborn.group.survivors ended = [⟨none, .signal 15⟩] ∧
      stubborn.supervise? (.ofSeconds 1) Waiting.pausing Waiting.pausing = some (.terminated ended) ∧
      (Supervised.terminated ended).answer sleep (.ofSeconds 1) "" "" =
        .error (.timeout "sleep 20" (.ofSeconds 1)) ∧
      stubborn.abandoned (.terminated ended) = [⟨none, .signal 15⟩] :=
  ⟨by decide, by decide, by decide, rfl, by decide⟩

end HostSetup.Course
