import HostSetup.Proofs.Session.Trace

/-!
How sessions go, without a trace and with one. Both are told by one equation: what is loaded decides
whether the plan is run, and a run is what is announced, the execution, and what is told of its report.
-/
namespace HostSetup

def Notice.event (notice : Notice) : Event := .printed notice.channel notice.text

namespace Session

variable {σ : Type} (host : Host (StateM σ)) (launcher : Launcher (StateM σ))
variable (o : Options) (c : Setup) (p : Platform) (s : σ)

/-- What is told before the plan is run. -/
def announced : List Notice := if o.nop then [.listing p (c.registry.plan p)] else []

/-- What is told of a report. -/
def closing (report : Report) : List Notice :=
  (if report.halted then (report.firstFailure.map Notice.failure).toList else []) ++
    (if o.nop || c.continueOnError then [.summary report]
      else if report.hasFailures then [] else [.complete p])

/-- What is told after the execution; nothing, if the session broke down. -/
def ending (result : Except Breakdown Report) : List Notice :=
  match result with
  | .ok report => closing o c p report
  | .error _ => []

/-- What runs the plan of a session, and the state in which it begins. -/
def launch : Executor × σ :=
  let probed := host.tools.run s
  (⟨{ c.translator.forHost probed.1 (!o.noSudo) with dryRun := o.nop }, c.executionOptions⟩,
    (((announced o c p).forM host.tell).run probed.2).2)

section
variable {m : Type → Type} [Monad m] [LawfulMonad m] (host : Host m) (runner : Runner m)

theorem tellReport_eq (report : Report) :
    tellReport host o c p report = (closing o c p report).forM host.tell := by
  unfold tellReport closing
  cases report.halted <;> cases report.firstFailure <;> cases o.nop <;> cases c.continueOnError <;>
    cases report.hasFailures <;> simp

theorem perform_eq :
    perform host runner o c p = (do
      let tools ← host.tools
      (announced o c p).forM host.tell
      let ex : Executor :=
        ⟨{ c.translator.forHost tools (!o.noSudo) with dryRun := o.nop }, c.executionOptions⟩
      let report ← ex.execute runner p (c.registry.plan p)
      (closing o c p report).forM host.tell
      return report.exitCode) := by
  unfold perform announced
  simp only [tellReport_eq]
  cases o.nop <;> simp
end

theorem run_bind {τ α β : Type} (x : StateM τ α) (f : α → StateM τ β) (s : τ) :
    (x >>= f).run s = (f (x.run s).1).run (x.run s).2 := rfl

theorem tell_lifted (notices : List Notice) :
    (notices.forM host.lifted.tell).run.run s = (.ok (), ((notices.forM host.tell).run s).2) := by
  induction notices generalizing s with
  | nil => rfl
  | cons notice rest ih =>
    have told : (host.lifted.tell notice).run.run s = (.ok (), ((host.tell notice).run s).2) := rfl
    simp only [List.forM, attempt_bind, told, ih]
    rfl

theorem tell_traced (notices : List Notice) (trace : List Event) :
    (notices.forM host.traced.tell).run (s, trace) =
      ((), ((notices.forM host.tell).run s).2, trace ++ notices.map Notice.event) := by
  induction notices generalizing s trace with
  | nil => rw [List.map_nil, List.append_nil]; rfl
  | cons notice rest ih =>
    have told : (host.traced.tell notice).run (s, trace) =
      ((), ((host.tell notice).run s).2, trace ++ [notice.event]) := rfl
    simp only [List.forM, run_bind, told, ih, List.append_assoc]
    rfl

theorem launch_traced (trace : List Event) :
    launch host.traced o c p (s, trace) =
      ((launch host o c p s).1, (launch host o c p s).2,
        trace ++ (announced o c p).map Notice.event) := by
  have probed : host.traced.tools.run (s, trace) =
    ((host.tools.run s).1, (host.tools.run s).2, trace) := rfl
  simp only [launch, probed, tell_traced]

theorem writeText_traced (path text : String) (trace : List Event) :
    (host.traced.writeText path text).run (s, trace) =
      (((host.writeText path text).run s).1, ((host.writeText path text).run s).2, trace) := rfl

theorem facts_traced (trace : List Event) :
    host.traced.facts.run (s, trace) = ((host.facts.run s).1, (host.facts.run s).2, trace) := rfl

theorem baseSetup_lifted :
    (baseSetup host.lifted o).run.run s =
      (.ok ((baseSetup host o).run s).1, ((baseSetup host o).run s).2) := by
  unfold baseSetup
  cases o.config <;> rfl

theorem baseSetup_traced (trace : List Event) :
    (baseSetup host.traced o).run (s, trace) =
      (((baseSetup host o).run s).1, ((baseSetup host o).run s).2, trace) := by
  unfold baseSetup
  cases o.config <;> rfl

theorem perform_lifted (runner : Runner (ExceptT Breakdown (StateM σ))) :
    (perform host.lifted runner o c p).run.run s =
      let start := launch host o c p s
      let ran := (start.1.execute runner p (c.registry.plan p)).run.run start.2
      match ran.1 with
      | .ok report => (.ok report.exitCode, (((closing o c p report).forM host.tell).run ran.2).2)
      | .error b => (.error b, ran.2) := by
  have probed : host.lifted.tools.run.run s = (.ok (host.tools.run s).1, (host.tools.run s).2) := rfl
  simp only [perform_eq, attempt_bind, probed, tell_lifted, launch]
  generalize (Executor.execute _ runner p _).run.run _ = ran
  obtain ⟨b | report, after⟩ := ran <;> rfl

/-- What a session prints while it runs its plan, and what it leaves in sight between: commands that
are started and times that are read, of which one is too late exactly if the run breaks down. -/
theorem perform_traced {ran : Except Breakdown Report × σ}
    (came : ((launch host o c p s).1.execute launcher.runner p (c.registry.plan p)).run.run
      (launch host o c p s).2 = ran) :
    ∃ after silent,
      (perform host.lifted launcher.runner o c p).run.run s = (ran.1.map Report.exitCode, after) ∧
      (perform host.traced.lifted launcher.traced.runner o c p).run.run (s, []) =
        (ran.1.map Report.exitCode, after, (announced o c p).map Notice.event ++ silent ++
          (ending o c p ran.1).map Notice.event) ∧
      (∀ event ∈ silent, event.isPrinted = false) ∧
      ((∃ b, ran.1 = .error b) ↔ ∃ event ∈ silent, event.IsTooLate c.executionOptions.timeout) := by
  obtain ⟨silent, traced, quiet, broken⟩ :=
    (launch host o c p s).1.execute_traces launcher p (c.registry.plan p) (launch host o c p s).2
      ((announced o c p).map Notice.event)
  rw [came] at traced broken
  simp only [perform_lifted, launch_traced, List.nil_append, traced, came]
  obtain ⟨b | report, after⟩ := ran
  case error =>
    exact ⟨after, silent, rfl, by simp only [ending, List.map_nil, List.append_nil]; rfl, quiet, broken⟩
  case ok =>
    refine ⟨_, silent, rfl, ?_, quiet, broken⟩
    simp only [tell_traced]
    rfl

theorem attempt_eq :
    (attempt host launcher o).run s =
      let loaded := (baseSetup host o).run s
      match effectiveSetup o loaded.1 with
      | .error e => (.ok (.error e), loaded.2)
      | .ok c =>
        match o.saveConfig with
        | some path =>
          let wrote := (host.writeText path c.fileText).run loaded.2
          match wrote.1 with
          | .error cause => (.ok (.error (.file (.unwritable path cause))), wrote.2)
          | .ok () => (.ok (.ok 0), ((host.tell (.saved path)).run wrote.2).2)
        | none =>
          let looked := host.facts.run loaded.2
          match Platform.detect looked.1 with
          | .error e => (.ok (.error (.undetected e)), looked.2)
          | .ok p =>
            let done := (perform host.lifted launcher.runner o c p).run.run looked.2
            (done.1.map .ok, done.2) := by
  unfold attempt run
  simp only [attempt_bind, baseSetup_lifted]
  cases effectiveSetup o ((baseSetup host o).run s).1 with
  | error e => rfl
  | ok c =>
    cases o.saveConfig with
    | some path =>
      have wrote (t : σ) : (host.lifted.writeText path c.fileText).run.run t =
        (.ok ((host.writeText path c.fileText).run t).1, ((host.writeText path c.fileText).run t).2) := rfl
      simp only [save, attempt_bind, wrote]
      cases ((host.writeText path c.fileText).run ((baseSetup host o).run s).2).1 <;> rfl
    | none =>
      have looked (t : σ) : host.lifted.facts.run.run t =
        (.ok (host.facts.run t).1, (host.facts.run t).2) := rfl
      simp only [attempt_bind, looked]
      cases Platform.detect (host.facts.run ((baseSetup host o).run s).2).1 with
      | error e => rfl
      | ok p =>
        simp only [map_eq_pure_bind, attempt_bind]
        generalize (perform host.lifted launcher.runner o c p).run.run _ = done
        obtain ⟨b | code, after⟩ := done <;> rfl

end Session
end HostSetup
