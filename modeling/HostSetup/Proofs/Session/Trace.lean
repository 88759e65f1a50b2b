import HostSetup.Proofs.Execution.Breakdown
import HostSetup.Session

/-!
What a session leaves in the sight of others: a trace of what it printed, of the commands it had
started and of the times it read for their deadlines. A run that is traced does what it does without
a trace. It prints nothing, and breaks down exactly behind a time that is too late for the limit.
-/
namespace HostSetup

variable {σ α β : Type}

inductive Event
  | printed (channel : Channel) (text : String)
  | started (command : Command)
  | timed (now : Duration)
  deriving DecidableEq, Repr

namespace Event

def isPrinted : Event → Bool
  | printed .. => true
  | _ => false

/-- The clock does not count on for as long as the limit. -/
def IsTooLate (timeout : Option Duration) : Event → Prop
  | timed now => ∃ limit, timeout = some limit ∧
      clockEnd.nanoseconds ≤ now.nanoseconds + limit.nanoseconds
  | _ => False

end Event

/-- The trace stays as it is. -/
def beside (x : StateM σ α) : StateM (σ × List Event) α := fun (s, trace) =>
  ((x.run s).1, (x.run s).2, trace)

/-- What comes of it adds an event to the trace, which has the latest last. -/
def noting (event : α → Event) (x : StateM σ α) : StateM (σ × List Event) α := fun (s, trace) =>
  ((x.run s).1, (x.run s).2, trace ++ [event (x.run s).1])

def Host.traced (host : Host (StateM σ)) : Host (StateM (σ × List Event)) where
  readText path := beside (host.readText path)
  writeText path text := beside (host.writeText path text)
  facts := beside host.facts
  tools := beside host.tools
  print channel text := noting (fun _ => .printed channel text) (host.print channel text)

def Launcher.traced (launcher : Launcher (StateM σ)) : Launcher (StateM (σ × List Event)) where
  start command := noting (fun _ => .started command) (launcher.start command)
  now := noting .timed launcher.now
  await command allowance := beside (launcher.await command allowance)

/-- `seen` does what `unseen` does. On the way it adds events to the trace, of which none is printed,
and breaks down exactly if one of them is too late. -/
def Traces (timeout : Option Duration) (seen : ExceptT Breakdown (StateM (σ × List Event)) α)
    (unseen : ExceptT Breakdown (StateM σ) α) : Prop :=
  ∀ s trace, ∃ events,
    seen.run.run (s, trace) = ((unseen.run.run s).1, (unseen.run.run s).2, trace ++ events) ∧
      (∀ event ∈ events, event.isPrinted = false) ∧
      ((∃ b, (unseen.run.run s).1 = .error b) ↔ ∃ event ∈ events, event.IsTooLate timeout)

namespace Traces

variable {timeout : Option Duration}

theorem pure (a : α) : Traces (σ := σ) timeout (Pure.pure a) (Pure.pure a) := by
  intro s trace
  refine ⟨[], by rw [List.append_nil]; rfl, by simp, ?_⟩
  constructor
  · rintro ⟨b, broken⟩
    contradiction
  · simp

theorem bind {seen : ExceptT Breakdown (StateM (σ × List Event)) α}
    {unseen : ExceptT Breakdown (StateM σ) α}
    {seenNext : α → ExceptT Breakdown (StateM (σ × List Event)) β}
    {next : α → ExceptT Breakdown (StateM σ) β} (traces : Traces timeout seen unseen)
    (then_traces : ∀ a, Traces timeout (seenNext a) (next a)) :
    Traces timeout (seen >>= seenNext) (unseen >>= next) := by
  intro s trace
  obtain ⟨events, same, quiet, broken⟩ := traces s trace
  rw [attempt_bind, attempt_bind, same]
  generalize unseen.run.run s = came at broken ⊢
  obtain ⟨b | a, after⟩ := came
  case error =>
    refine ⟨events, rfl, quiet, ?_⟩
    rw [← broken]
    simp
  case ok =>
    obtain ⟨later, sameThen, quietThen, brokenThen⟩ := then_traces a after (trace ++ events)
    refine ⟨events ++ later, by rw [← List.append_assoc]; exact sameThen, ?_, brokenThen.trans ?_⟩
    · intro event member
      rcases List.mem_append.mp member with first | second
      · exact quiet event first
      · exact quietThen event second
    · have in_time : ¬∃ event ∈ events, event.IsTooLate timeout := by
        rw [← broken]
        simp
      simp only [List.mem_append]
      grind

theorem beside (x : StateM σ α) :
    Traces timeout (ExceptT.lift (HostSetup.beside x)) (ExceptT.lift x) := by
  intro s trace
  refine ⟨[], by rw [List.append_nil]; rfl, by simp, ?_⟩
  constructor
  · rintro ⟨b, broken⟩
    contradiction
  · simp

theorem started (launcher : Launcher (StateM σ)) (command : Command) :
    Traces timeout (ExceptT.lift (launcher.traced.start command))
      (ExceptT.lift (launcher.start command)) := by
  intro s trace
  refine ⟨[.started command], rfl, by simp [Event.isPrinted], ?_⟩
  constructor
  · rintro ⟨b, broken⟩
    contradiction
  · simp [Event.IsTooLate]

end Traces

theorem Duration.deadline?_eq_none_iff {now limit : Duration} :
    now.deadline? limit = none ↔ clockEnd.nanoseconds ≤ now.nanoseconds + limit.nanoseconds := by
  simp [deadline?]

namespace Launcher

variable (launcher : Launcher (StateM σ))

theorem awaitWithin_eq (command : Command) (limit : Duration) (s : σ) :
    (launcher.awaitWithin command limit).run.run s =
      let read := launcher.now.run s
      match read.1.deadline? limit with
      | some deadline =>
        let came := (launcher.await command (some ⟨limit, deadline⟩)).run read.2
        (.ok came.1, came.2)
      | none => (.error ⟨command, read.1, limit⟩, read.2) := by
  unfold awaitWithin
  rw [attempt_bind]
  rw [attempt_lift]
  dsimp only
  cases (launcher.now.run s).1.deadline? limit <;> rfl

theorem awaitWithin_traces (command : Command) (limit : Duration) :
    Traces (some limit) (launcher.traced.awaitWithin command limit)
      (launcher.awaitWithin command limit) := by
  intro s trace
  refine ⟨[.timed (launcher.now.run s).1], ?_, by simp [Event.isPrinted], ?_⟩
  · have read : launcher.traced.now.run (s, trace) = ((launcher.now.run s).1,
        (launcher.now.run s).2, trace ++ [.timed (launcher.now.run s).1]) := rfl
    simp only [awaitWithin_eq, read]
    cases (launcher.now.run s).1.deadline? limit <;> rfl
  · simp only [awaitWithin_eq, List.mem_singleton, exists_eq_left, Event.IsTooLate,
      Option.some.injEq, exists_eq_left']
    rw [← Duration.deadline?_eq_none_iff]
    cases (launcher.now.run s).1.deadline? limit <;> simp

/-- The runner of a launcher breaks down behind a time that is too late for its limit, and only there. -/
theorem runner_traces (command : Command) (timeout : Option Duration) :
    Traces timeout (launcher.traced.runner command timeout) (launcher.runner command timeout) := by
  refine (Traces.started launcher command).bind ?_
  intro result
  cases result with
  | error cause => exact .pure _
  | ok _ =>
    cases timeout with
    | none => exact .beside (launcher.await command none)
    | some limit => exact launcher.awaitWithin_traces command limit

end Launcher

namespace Executor

variable (ex : Executor) (launcher : Launcher (StateM σ)) (p : Platform)

theorem perform_traces (a : Action) :
    Traces ex.options.timeout (ex.perform launcher.traced.runner p a)
      (ex.perform launcher.runner p a) := by
  unfold perform
  cases a.prepare ex.translator p with
  | error ending => exact .pure ending
  | ok command =>
    simp only [map_eq_pure_bind]
    exact (launcher.runner_traces command ex.options.timeout).bind fun _ => .pure _

theorem runSteps_traces (steps : List Plan.Step) :
    Traces ex.options.timeout (ex.runSteps launcher.traced.runner p steps)
      (ex.runSteps launcher.runner p steps) := by
  induction steps with
  | nil => exact .pure _
  | cons step rest ih =>
    obtain ⟨phase, a⟩ := step
    refine (ex.perform_traces launcher p a).bind ?_
    intro ending
    dsimp only
    split
    · exact .pure _
    · exact ih.bind fun report => .pure _

theorem execute_traces (plan : Plan) :
    Traces ex.options.timeout (ex.execute launcher.traced.runner p plan)
      (ex.execute launcher.runner p plan) := by
  rw [execute_eq_runSteps, execute_eq_runSteps]
  exact ex.runSteps_traces launcher p plan.steps

end Executor

end HostSetup
