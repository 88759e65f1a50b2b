import HostSetup.Process.Group
import HostSetup.Proofs.Process.Waiting

/-!
What is left of a group of processes that was asked to end. The whole group is killed only if its
leader is still there when the grace is over. If the leader goes in time, the others are not looked
at: those that ignore the request, or need longer than the leader, stay.
-/
namespace HostSetup.ProcessGroup

variable {g : ProcessGroup} {grace : Duration} {clock : Nat → Duration} {t : Termination}

/-- If the leader is gone, so are the others. -/
def LeavesTogether (elapsed : Duration) (g : ProcessGroup) : Prop :=
  g.leader.isGone elapsed = true → ∀ member ∈ g.others, member.isGone elapsed = true

theorem exists_termination (steady : Waiting.Steady clock) (grace : Duration) (g : ProcessGroup) :
    ∃ t, g.terminate? grace clock = some t :=
  Waiting.exists_settled steady grace (fun n => g.leader.statusAt (clock n))
    (fun _ _ => ⟨_, rfl⟩) (fun _ => ⟨_, rfl⟩)

/-- The group is killed where its leader outlasts the grace, and else it is taken to have ended with
its leader. -/
theorem termination_cases (ended : g.terminate? grace clock = some t) :
    (t.killed = false ∧ g.leader.isGone t.elapsed = true) ∨
      (t.killed = true ∧ g.leader.isGone t.elapsed = false) := by
  obtain ⟨v, decided, settled⟩ := Option.bind_eq_some_iff.mp ended
  obtain ⟨n, shown⟩ := Waiting.exists_look_of_verdict decided
  rcases Waiting.verdict_of_ok shown with ⟨status, seen, rfl⟩ | ⟨unseen, rfl, _⟩
  · obtain rfl := Option.some.inj settled
    have gone : g.leader.isGone (clock n) = true := by
      by_cases gone : g.leader.isGone (clock n) = true
      · exact gone
      · simp [GroupMember.statusAt, gone] at seen
    exact .inl ⟨rfl, gone⟩
  · obtain rfl := Option.some.inj settled
    have present : g.leader.isGone (clock n) = false := by
      simpa [GroupMember.statusAt] using unseen
    exact .inr ⟨rfl, present⟩

theorem survivors_eq_nil_iff (ended : g.terminate? grace clock = some t) :
    g.survivors t = [] ↔ g.LeavesTogether t.elapsed := by
  rcases termination_cases ended with ⟨spared, gone⟩ | ⟨killed, present⟩
  · simp [survivors, LeavesTogether, members, spared, gone]
  · simp [survivors, LeavesTogether, killed, present]

end HostSetup.ProcessGroup
