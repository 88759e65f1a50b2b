import Mathlib.Algebra.Order.Floor.Div
import HostSetup.Proofs.Process.Waiting

/-!
The wait as a loop that knows no number of looks: it looks, and if that decides nothing, it pauses
and looks again. What ends the loop is the clock, which gains at least the pause between two looks:
no more looks are made than pauses fit into the limit, and one more. The last look is the first one
that shows an end or a failure, or comes when the time is over.
-/
namespace HostSetup.Waiting

theorem enough_eq_ceilDiv (limit : Duration) :
    enough limit = limit.nanoseconds ⌈/⌉ interval.nanoseconds + 1 := by
  rw [enough, Nat.ceilDiv_eq_add_pred_div]

theorem Look.verdict?_eq_none_iff {limit : Duration} {look : Look} :
    look.verdict? limit = none ↔
      look.seen = .ok none ∧ look.elapsed.nanoseconds < limit.nanoseconds := by
  obtain ⟨seen, elapsed⟩ := look
  cases seen with
  | error cause => simp [verdict?]
  | ok status =>
    cases status with
    | none => simp [verdict?]
    | some status => simp [verdict?]

theorem verdict?_append (limit : Duration) (before behind : List Look) :
    verdict? limit (before ++ behind) = (verdict? limit before).or (verdict? limit behind) :=
  List.findSome?_append

section Ends

variable {limit : Duration} {look : Nat → Look} {v : Verdict} {first last : Nat}

/-- Of the looks from the first one on, the last one is the only one that decides. -/
structure EndsAt (limit : Duration) (look : Nat → Look) (first last : Nat) (v : Verdict) : Prop where
  undecided : ∀ n, first ≤ n → n < last → (look n).verdict? limit = none
  decided : (look last).verdict? limit = some v

theorem EndsAt.before (ends : EndsAt limit look (first + 1) last v)
    (again : (look first).verdict? limit = none) : EndsAt limit look first last v where
  undecided n from_first until_last := by
    rcases Nat.eq_or_lt_of_le from_first with rfl | later
    · exact again
    · exact ends.undecided n later until_last
  decided := ends.decided

theorem EndsAt.last_le (ends : EndsAt limit look 0 last v) {n : Nat}
    (decides : ((look n).verdict? limit).isSome) : last ≤ n := by
  by_contra later
  rw [ends.undecided n (Nat.zero_le _) (Nat.lt_of_not_le later)] at decides
  contradiction

theorem verdict?_of_endsAt (ends : EndsAt limit look 0 last v) (count : Nat) :
    verdict? limit ((List.range count).map look) = if last < count then some v else none := by
  induction count with
  | zero => rfl
  | succ count ih =>
    have alone : verdict? limit [look count] = (look count).verdict? limit := by
      rw [verdict?_cons]
      exact Option.or_none
    rw [List.range_succ, List.map_append, verdict?_append, ih, List.map_singleton, alone]
    rcases Nat.lt_trichotomy last count with earlier | rfl | later
    · simp [earlier, Nat.lt_succ_of_lt earlier]
    · simp [ends.decided]
    · simp [ends.undecided count (Nat.zero_le _) later, Nat.not_lt_of_lt later,
        Nat.not_lt.mpr (Nat.succ_le_of_lt later)]

end Ends

variable {clock : Nat → Duration}

theorem Steady.time_left (steady : Steady clock) {limit : Duration} {n : Nat}
    (early : (clock n).nanoseconds < limit.nanoseconds) :
    limit.nanoseconds - (clock (n + 1)).nanoseconds < limit.nanoseconds - (clock n).nanoseconds := by
  have pause : 0 < interval.nanoseconds := by decide
  have gained := steady n
  omega

/-- The loop from one of the looks on: its verdict, and how many looks have been made by then. Only
the clock ends it, where nothing else is seen. -/
def poll (steady : Steady clock) (limit : Duration) (seen : Nat → Except IoError (Option ExitStatus))
    (n : Nat) : Verdict × Nat :=
  match undecided : Look.verdict? limit ⟨seen n, clock n⟩ with
  | some v => (v, n + 1)
  | none => poll steady limit seen (n + 1)
termination_by limit.nanoseconds - (clock n).nanoseconds
decreasing_by exact steady.time_left (Look.verdict?_eq_none_iff.mp undecided).2

theorem endsAt_of_poll (steady : Steady clock) (limit : Duration)
    (seen : Nat → Except IoError (Option ExitStatus)) (first : Nat) :
    ∃ last v, poll steady limit seen first = (v, last + 1) ∧
      EndsAt limit (fun n => ⟨seen n, clock n⟩) first last v := by
  fun_induction poll steady limit seen first with
  | case1 n v decided =>
    refine ⟨n, v, rfl, ?_, decided⟩
    intro m from_n until_n
    exact absurd until_n (Nat.not_lt_of_le from_n)
  | case2 n again ih =>
    obtain ⟨last, v, ended, ends⟩ := ih
    exact ⟨last, v, ended, ends.before again⟩

theorem EndsAt.soon (steady : Steady clock) {limit : Duration}
    {seen : Nat → Except IoError (Option ExitStatus)} {last : Nat} {v : Verdict}
    (ends : EndsAt limit (fun n => ⟨seen n, clock n⟩) 0 last v) : last + 1 ≤ enough limit := by
  -- the look that is late enough decides, whatever it shows
  have late := Nat.le_trans (limit_le_enough limit) (steady.le (enough limit - 1))
  have bound := ends.last_le (verdict?_isSome_of_late late)
  have some_look : 0 < enough limit := Nat.succ_pos _
  omega

/-- The loop ends at one of its looks, which is at least the first one, after no more of them than
pauses begin within the limit and one more. All looks before it found the process running when the
time was not over, and its verdict is what this one shows: the failure, the end of the process even
when the time is over, or that the time is over. So many looks as it has made, or more, come to the
same verdict, and fewer come to none. -/
theorem wait_ends_in_time (steady : Steady clock) (limit : Duration)
    (seen : Nat → Except IoError (Option ExitStatus)) :
    let look (n : Nat) : Look := ⟨seen n, clock n⟩
    ∃ last v,
      poll steady limit seen 0 = (v, last + 1) ∧
      last + 1 ≤ limit.nanoseconds ⌈/⌉ interval.nanoseconds + 1 ∧
      (∀ n < last, seen n = .ok none ∧ (clock n).nanoseconds < limit.nanoseconds) ∧
      (match seen last with
        | .error cause => v = .broken cause
        | .ok (some status) => v = .exited status (clock last)
        | .ok none => v = .expired (clock last) ∧ limit.nanoseconds ≤ (clock last).nanoseconds) ∧
      ∀ count, verdict? limit ((List.range count).map look) = if last < count then some v else none := by
  intro look
  obtain ⟨last, v, ended, ends⟩ := endsAt_of_poll steady limit seen 0
  refine ⟨last, v, ended, ?bound, ?running, ?shown, verdict?_of_endsAt ends⟩
  case bound =>
    rw [← enough_eq_ceilDiv]
    exact ends.soon steady
  case running =>
    intro n before
    exact Look.verdict?_eq_none_iff.mp (ends.undecided n (Nat.zero_le _) before)
  case shown =>
    have decided := ends.decided
    cases shown : seen last with
    | error cause =>
      rw [shown] at decided
      exact (Option.some.inj decided).symm
    | ok status =>
      rw [shown] at decided
      rcases verdict_of_ok decided with ⟨status, rfl, rfl⟩ | ⟨rfl, rfl, late⟩
      · rfl
      · exact ⟨rfl, late⟩

/-- A process that ends just when the time is over, before the last look that is made at any rate. -/
theorem wait_ends_in_time_last_look :
    let limit := Duration.ofMilliseconds 100
    let seen (n : Nat) : Except IoError (Option ExitStatus) :=
      .ok (if n < 2 then none else some (.code 0))
    Steady pausing ∧
      limit.nanoseconds ⌈/⌉ interval.nanoseconds + 1 = 3 ∧
      poll steady_pausing limit seen 0 = (.exited (.code 0) limit, 3) := by
  intro limit seen
  have most : limit.nanoseconds ⌈/⌉ interval.nanoseconds + 1 = 3 := by decide
  obtain ⟨last, v, ended, bound, running, shown, _⟩ := wait_ends_in_time steady_pausing limit seen
  refine ⟨steady_pausing, most, ?_⟩
  have third : last = 2 := by
    rw [most] at bound
    by_contra other
    have before : last < 2 := by omega
    simp only [seen, before, if_true] at shown
    have early : (pausing last).nanoseconds < limit.nanoseconds := by
      simp only [pausing, interval, limit, Duration.ofMilliseconds]
      omega
    exact absurd shown.2 (Nat.not_le.mpr early)
  subst third
  obtain rfl : v = .exited (.code 0) limit := shown
  exact ended

end HostSetup.Waiting
