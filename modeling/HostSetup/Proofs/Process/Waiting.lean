import HostSetup.Process.Waiting

/-!
Waits come to an end. On a clock that gains at least a pause between two looks, the looks that are
counted as enough decide, whatever is seen; and what is decided is what one of them shows.
-/
namespace HostSetup.Waiting

/-- Between two looks the clock gains at least the pause. -/
def Steady (clock : Nat → Duration) : Prop :=
  ∀ n, (clock n).nanoseconds + interval.nanoseconds ≤ (clock (n + 1)).nanoseconds

/-- The clock that gains just the pause. -/
def pausing (n : Nat) : Duration := ⟨n * interval.nanoseconds⟩

theorem steady_pausing : Steady pausing :=
  fun n => Nat.le_of_eq (Nat.add_one_mul n interval.nanoseconds).symm

variable {clock : Nat → Duration}

theorem Steady.le (steady : Steady clock) (n : Nat) :
    n * interval.nanoseconds ≤ (clock n).nanoseconds := by
  induction n with
  | zero => simp
  | succ n ih =>
    rw [Nat.add_one_mul]
    exact Nat.le_trans (Nat.add_le_add_right ih _) (steady n)

theorem limit_le_enough (limit : Duration) :
    limit.nanoseconds ≤ (enough limit - 1) * interval.nanoseconds := by
  have pause : interval.nanoseconds = 50000000 := rfl
  rw [enough, pause]
  omega

theorem verdict?_isSome_of_late {limit : Duration} {look : Look}
    (late : limit.nanoseconds ≤ look.elapsed.nanoseconds) : (look.verdict? limit).isSome := by
  rw [Look.verdict?]
  cases look.seen with
  | error cause => rfl
  | ok seen =>
    cases seen with
    | some status => rfl
    | none => simp [late]

theorem exists_verdict (steady : Steady clock) (limit : Duration)
    (seen : Nat → Except IoError (Option ExitStatus)) :
    ∃ v, verdict? limit ((List.range (enough limit)).map fun n => ⟨seen n, clock n⟩) = some v := by
  have last : enough limit - 1 < enough limit := Nat.sub_one_lt (Nat.succ_ne_zero _)
  -- the last of the looks is behind the limit, so it decides if none before it does
  have late := Nat.le_trans (limit_le_enough limit) (steady.le (enough limit - 1))
  rw [← Option.isSome_iff_exists, verdict?, List.isSome_findSome?, List.any_map, List.any_eq_true]
  exact ⟨_, List.mem_range.mpr last, verdict?_isSome_of_late late⟩

theorem exists_look_of_verdict {limit : Duration} {count : Nat}
    {seen : Nat → Except IoError (Option ExitStatus)} {v : Verdict}
    (decided : verdict? limit ((List.range count).map fun n => ⟨seen n, clock n⟩) = some v) :
    ∃ n, (Look.mk (seen n) (clock n)).verdict? limit = some v := by
  obtain ⟨look, place, shown⟩ := List.exists_of_findSome?_eq_some decided
  obtain ⟨n, _, rfl⟩ := List.mem_map.mp place
  exact ⟨n, shown⟩

/-- A process that can be seen has ended, or the time is over. -/
theorem verdict_of_ok {limit elapsed : Duration} {seen : Option ExitStatus} {v : Verdict}
    (shown : (Look.mk (.ok seen) elapsed).verdict? limit = some v) :
    (∃ status, seen = some status ∧ v = .exited status elapsed) ∨
      (seen = none ∧ v = .expired elapsed ∧ limit.nanoseconds ≤ elapsed.nanoseconds) := by
  cases seen with
  | some status => exact .inl ⟨status, rfl, (Option.some.inj shown).symm⟩
  | none =>
    simp only [Look.verdict?] at shown
    split at shown
    · rename_i past
      exact .inr ⟨rfl, (Option.some.inj shown).symm, past⟩
    · contradiction

/-- What is made of an end and of a limit is made of the wait for a process that can be seen. -/
theorem exists_settled {β : Type} {settle : Verdict → Option β} (steady : Steady clock)
    (limit : Duration) (seen : Nat → Option ExitStatus)
    (exited : ∀ status elapsed, ∃ b, settle (.exited status elapsed) = some b)
    (expired : ∀ elapsed, ∃ b, settle (.expired elapsed) = some b) :
    ∃ b, (verdict? limit ((List.range (enough limit)).map fun n => ⟨.ok (seen n), clock n⟩)).bind
      settle = some b := by
  obtain ⟨v, decided⟩ := exists_verdict steady limit fun n => .ok (seen n)
  obtain ⟨n, shown⟩ := exists_look_of_verdict decided
  rw [decided, Option.bind_some]
  rcases verdict_of_ok shown with ⟨status, _, rfl⟩ | ⟨_, rfl, _⟩
  · exact exited status _
  · exact expired _

end HostSetup.Waiting
