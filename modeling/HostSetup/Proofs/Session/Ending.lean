import HostSetup.Proofs.Execution.Preview
import HostSetup.Proofs.Session.Attempt
import HostSetup.Proofs.Session.Loading

/-!
How sessions end. Whatever the host, a session ends early for one of four reasons and has then
printed nothing and started nothing; or it saves its setup and starts nothing; or it runs its plan,
and prints at the end one of three texts: the table of all results, the account of the failure that
halted it, or that all is done. Only a session whose clock does not count on for as long as its limit
breaks down, behind a command that it has started, and prints none of them.
-/
namespace HostSetup

theorem Report.isSome_firstFailure (report : Report) :
    report.firstFailure.isSome = report.hasFailures :=
  List.isSome_find? ..

theorem Report.hasFailures_eq_false_iff {report : Report} :
    report.hasFailures = false ↔ ∀ r ∈ report.results, r.isFailed = false := by
  simp [hasFailures]

theorem Report.exitCode_or (report : Report) :
    report.exitCode = 1 ∧ (∃ r ∈ report.results, r.isFailed = true) ∨
      report.exitCode = 0 ∧ ∀ r ∈ report.results, r.isFailed = false := by
  unfold exitCode
  cases failures : report.hasFailures with
  | true => exact .inl ⟨rfl, List.any_eq_true.mp failures⟩
  | false => exact .inr ⟨rfl, hasFailures_eq_false_iff.mp failures⟩

/-! The texts at the end of a run differ in their first characters. -/

theorem head_append {c : Char} {front : String} (first : front.toList.head? = some c) (back : String) :
    (front ++ back).toList.head? = some c := by
  rw [String.toList_append, List.head?_append, first]
  rfl

theorem head_intercalate {c : Char} {front : String} (first : front.toList.head? = some c)
    (mark : String) (rest : List String) :
    (mark.intercalate (front :: rest)).toList.head? = some c := by
  rw [String.toList_intercalate, List.map_cons]
  cases rest with
  | nil => rwa [List.map_nil, List.intercalate_singleton]
  | cons next rest =>
    rw [List.map_cons, List.intercalate_cons_cons, List.append_assoc, List.head?_append, first]
    rfl

theorem Text.head_boxed (header : List String) (rows : List (List String)) :
    (boxed header rows).toList.head? = some '╭' := by
  obtain ⟨widths, below, drawn⟩ : ∃ widths below,
      Boxed.draw (header.map Boxed.Cell.ofString) (rows.map fun row => row.map Boxed.Cell.ofString) =
        Boxed.rule '╭' '┬' '╮' widths :: below := by
    unfold Boxed.draw
    dsimp only
    split <;> exact ⟨_, _, rfl⟩
  rw [boxed, String.toList_ofList, drawn]
  cases below with
  | nil => rw [List.intercalate_singleton]; rfl
  | cons next rest => rw [List.intercalate_cons_cons]; rfl

theorem Report.head_summary (report : Report) : report.summary.toList.head? = some '╭' := by
  rw [summary, String.append_assoc]
  exact head_append (Text.head_boxed ..) _

theorem StepResult.head_account (r : StepResult) : r.account.toList.head? = some 'S' :=
  head_intercalate (head_append (head_append rfl _) _) "\n" _

theorem head_complete (p : Platform) :
    ("✓ System setup complete for " ++ p.render).toList.head? = some '✓' :=
  head_append rfl _

theorem ne_of_head {a b : Char} {s t : String} (first : s.toList.head? = some a)
    (other : t.toList.head? = some b) (differ : a ≠ b) : s ≠ t := by
  rintro rfl
  exact differ (Option.some.inj (first.symm.trans other))

theorem summary_ne_account (report : Report) (r : StepResult) : report.summary ≠ r.account :=
  ne_of_head report.head_summary r.head_account (by decide)

theorem summary_ne_complete (report : Report) (p : Platform) :
    report.summary ≠ "✓ System setup complete for " ++ p.render :=
  ne_of_head report.head_summary (head_complete p) (by decide)

theorem account_ne_complete (r : StepResult) (p : Platform) :
    r.account ≠ "✓ System setup complete for " ++ p.render :=
  ne_of_head r.head_account (head_complete p) (by decide)

namespace Session

variable {σ : Type} (host : Host (StateM σ)) (launcher : Launcher (StateM σ))
variable (o : Options) (c : Setup) (p : Platform) (s : σ)

/-- Why a session ends before anything is run: its setup is not there or not valid, or it is to be
saved and is not, or the host is not known. -/
inductive Obstacle : SessionError → Prop
  | unloaded {e} : ((baseSetup host o).run s).1 = .error e → Obstacle (.file e)
  | invalid {base e} : ((baseSetup host o).run s).1 = .ok base →
    (o.override base).validate = .error e → Obstacle (.invalid e)
  | unsaved {c path cause} : effectiveSetup o ((baseSetup host o).run s).1 = .ok c →
    o.saveConfig = some path →
    ((host.writeText path c.fileText).run ((baseSetup host o).run s).2).1 = .error cause →
    Obstacle (.file (.unwritable path cause))
  | undetected {c e} : effectiveSetup o ((baseSetup host o).run s).1 = .ok c →
    o.saveConfig = none →
    Platform.detect (host.facts.run ((baseSetup host o).run s).2).1 = .error e →
    Obstacle (.undetected e)

/-- The one text that is printed of a report at the end. -/
structure Concludes (report : Report) (channel : Channel) (text : String) : Prop where
  one : channel = .output ∧ text = report.summary ∨
    channel = .errors ∧ (∃ r, report.results.find? (·.isFailed) = some r ∧ text = r.account) ∨
    channel = .output ∧ text = "✓ System setup complete for " ++ p.render
  summary : text = report.summary ↔ o.nop = true ∨ c.continueOnError = true
  failure : (∃ r, report.results.find? (·.isFailed) = some r ∧ text = r.account) ↔ report.halted = true
  complete : text = "✓ System setup complete for " ++ p.render ↔
    o.nop = false ∧ c.continueOnError = false ∧ ∀ r ∈ report.results, r.isFailed = false

/-- A session ends with an error exactly at an obstacle, and has then printed nothing and started
nothing. Else it has saved its setup, which is all it says, or it has run its plan. Then it has printed
one text after the last command, and its status says if something failed. -/
def EndsInSight : Prop :=
  let loaded := (baseSetup host o).run s
  let looked := host.facts.run loaded.2
  let done := (attempt host.traced launcher.traced o).run (s, [])
  let status := exitStatus done.1
  let trace := done.2.2
  (∀ e, done.1 = .ok (.error e) ↔ Obstacle host o s e) ∧
    ((∃ e, done.1 = .ok (.error e) ∧ status = 2 ∧ trace = []) ∨
    (∃ path, o.saveConfig = some path ∧ done.1 = .ok (.ok 0) ∧ status = 0 ∧
      trace = [.printed .output ("✓ Setup file written to " ++ path)]) ∨
    (o.saveConfig = none ∧ ∃ c p report after,
      effectiveSetup o loaded.1 = .ok c ∧ Platform.detect looked.1 = .ok p ∧
      let plan := c.registry.plan p
      let start := launch host o c p looked.2
      (start.1.execute launcher.runner p plan).run.run start.2 = (.ok report, after) ∧
      done.1 = .ok (.ok status) ∧
      (status = 1 ∧ (∃ r ∈ report.results, r.isFailed = true) ∨
        status = 0 ∧ ∀ r ∈ report.results, r.isFailed = false) ∧
      ∃ silent channel text, Concludes o c p report channel text ∧
        (∀ event ∈ silent, event.isPrinted = false) ∧
        trace = (if o.nop then [.printed .output (plan.listing p)] else []) ++ silent ++
          [.printed channel text]))

variable {host o s c p}

theorem attempt_of_obstacle {e : SessionError} (obstacle : Obstacle host o s e) :
    ∃ after, (attempt host launcher o).run s = (.ok (.error e), after) ∧
      (attempt host.traced launcher.traced o).run (s, []) = (.ok (.error e), after, []) := by
  simp only [attempt_eq, baseSetup_traced]
  cases obstacle with
  | unloaded unloaded =>
    simp only [effectiveSetup_eq_error_iff.mpr (.inl ⟨_, unloaded, rfl⟩)]
    exact ⟨_, rfl, rfl⟩
  | invalid loaded invalid =>
    simp only [effectiveSetup_eq_error_iff.mpr (.inr ⟨_, _, loaded, invalid, rfl⟩)]
    exact ⟨_, rfl, rfl⟩
  | unsaved effective saving unsaved =>
    simp only [effective, saving, writeText_traced, unsaved]
    exact ⟨_, rfl, rfl⟩
  | undetected effective running undetected =>
    simp only [effective, running, facts_traced, undetected]
    exact ⟨_, rfl, rfl⟩

section
variable (effective : effectiveSetup o ((baseSetup host o).run s).1 = .ok c)
include effective

theorem attempt_saved {path : String} (saving : o.saveConfig = some path)
    (saved : ((host.writeText path c.fileText).run ((baseSetup host o).run s).2).1 = .ok ()) :
    ∃ after, (attempt host launcher o).run s = (.ok (.ok 0), after) ∧
      (attempt host.traced launcher.traced o).run (s, []) =
        (.ok (.ok 0), after, [.printed .output ("✓ Setup file written to " ++ path)]) := by
  simp only [attempt_eq, baseSetup_traced, effective, saving, writeText_traced, saved]
  exact ⟨_, rfl, rfl⟩

theorem attempt_performed (running : o.saveConfig = none)
    (detected : Platform.detect (host.facts.run ((baseSetup host o).run s).2).1 = .ok p) :
    let start := launch host o c p (host.facts.run ((baseSetup host o).run s).2).2
    let ran := (start.1.execute launcher.runner p (c.registry.plan p)).run.run start.2
    let result := (ran.1.map Report.exitCode).map Except.ok
    ∃ after silent,
      (attempt host launcher o).run s = (result, after) ∧
      (attempt host.traced launcher.traced o).run (s, []) =
        (result, after, (announced o c p).map Notice.event ++ silent ++
          (ending o c p ran.1).map Notice.event) ∧
      (∀ event ∈ silent, event.isPrinted = false) ∧
      ((∃ b, ran.1 = .error b) ↔ ∃ event ∈ silent, event.IsTooLate c.executionOptions.timeout) := by
  intro start ran result
  obtain ⟨after, silent, performed, traced, quiet, broken⟩ :=
    perform_traced host launcher o c p (host.facts.run ((baseSetup host o).run s).2).2 (rfl : _ = ran)
  refine ⟨after, silent, ?_, ?_, quiet, broken⟩
  · simp only [attempt_eq, effective, running, detected, performed, result]
  · simp only [attempt_eq, baseSetup_traced, effective, running, facts_traced, detected, traced, result]

end

/-- A run that halts exactly at a failure that may end it leaves exactly one text to print. -/
theorem closing_concludes {report : Report}
    (halted : report.halted = true ↔
      (c.continueOnError = false ∧ o.nop = false) ∧ report.hasFailures = true) :
    ∃ last, closing o c p report = [last] ∧ Concludes o c p report last.channel last.text := by
  by_cases listed : o.nop = true ∨ c.continueOnError = true
  · have through : report.halted = false := by grind
    refine ⟨.summary report, by simp [closing, through, listed], .inl ⟨rfl, rfl⟩, ?_, ?_, ?_⟩
    · exact iff_of_true rfl listed
    · refine iff_of_false ?_ (by simp [through])
      rintro ⟨r, _, same⟩
      exact summary_ne_account report r same
    · exact iff_of_false (summary_ne_complete report p) (by grind)
  · obtain ⟨earnest, stops⟩ : o.nop = false ∧ c.continueOnError = false := by simpa using listed
    cases failures : report.hasFailures with
    | true =>
      have halts : report.halted = true := halted.mpr ⟨⟨stops, earnest⟩, failures⟩
      obtain ⟨r, first⟩ := Option.isSome_iff_exists.mp (report.isSome_firstFailure.trans failures)
      refine ⟨.failure r, by simp [closing, halts, first, earnest, stops, failures],
        .inr (.inl ⟨rfl, r, first, rfl⟩), ?_, ?_, ?_⟩
      · exact iff_of_false (summary_ne_account report r).symm listed
      · exact iff_of_true ⟨r, first, rfl⟩ halts
      · refine iff_of_false (account_ne_complete r p) ?_
        simp [← Report.hasFailures_eq_false_iff, failures]
    | false =>
      have through : report.halted = false := by grind
      refine ⟨.complete p, by simp [closing, through, earnest, stops, failures],
        .inr (.inr ⟨rfl, rfl⟩), ?_, ?_, ?_⟩
      · exact iff_of_false (summary_ne_complete report p).symm listed
      · refine iff_of_false ?_ (by simp [through])
        rintro ⟨r, _, same⟩
        exact account_ne_complete r p same.symm
      · exact iff_of_true rfl ⟨earnest, stops, Report.hasFailures_eq_false_iff.mp failures⟩

/-- A run that comes to its end halts at a failure, if that may end it. -/
theorem halted_launch_iff {report : Report} {after : σ}
    (whole : ((launch host o c p s).1.execute launcher.runner p (c.registry.plan p)).run.run
      (launch host o c p s).2 = (.ok report, after)) :
    report.halted = true ↔
      (c.continueOnError = false ∧ o.nop = false) ∧ report.hasFailures = true := by
  have halted := (launch host o c p s).1.halted_runSteps_iff launcher.runner.steadied p
    (c.registry.plan p).steps (launch host o c p s).2
  rw [← Executor.execute_eq_runSteps, (launch host o c p s).1.execute_steadied p whole,
    Executor.stopsAtFailure_iff, ← List.any_eq_true] at halted
  exact halted

/-- A dry session does not break down. -/
theorem not_dry_of_broken {b : Breakdown} {after : σ}
    (broken : ((launch host o c p s).1.execute launcher.runner p (c.registry.plan p)).run.run
      (launch host o c p s).2 = (.error b, after)) : o.nop = false := by
  cases dry : o.nop with
  | false => rfl
  | true =>
    simp only [launch, dry] at broken
    have through := Executor.execute_dry launcher.runner p
      (c.translator.forHost (host.tools.run s).1 (!o.noSudo)) c.executionOptions (c.registry.plan p)
    rw [Executor.dry] at through
    rw [through] at broken
    cases broken

variable (host o s) in
/-- Without an obstacle a session saves its setup, or it runs its plan. -/
theorem obstacle_or :
    let loaded := (baseSetup host o).run s
    (∃ e, Obstacle host o s e) ∨
      ∃ c, effectiveSetup o loaded.1 = .ok c ∧
        ((∃ path, o.saveConfig = some path ∧
            ((host.writeText path c.fileText).run loaded.2).1 = .ok ()) ∨
          (o.saveConfig = none ∧ ∃ p, Platform.detect (host.facts.run loaded.2).1 = .ok p)) := by
  intro loaded
  cases effective : effectiveSetup o loaded.1 with
  | error e =>
    rcases effectiveSetup_eq_error_iff.mp effective with
      ⟨cause, unloaded, rfl⟩ | ⟨base, cause, loaded, invalid, rfl⟩
    · exact .inl ⟨_, .unloaded unloaded⟩
    · exact .inl ⟨_, .invalid loaded invalid⟩
  | ok c =>
    cases saving : o.saveConfig with
    | some path =>
      cases wrote : ((host.writeText path c.fileText).run loaded.2).1 with
      | error cause => exact .inl ⟨_, .unsaved effective saving wrote⟩
      | ok _ => exact .inr ⟨c, rfl, .inl ⟨path, rfl, wrote⟩⟩
    | none =>
      cases detected : Platform.detect (host.facts.run loaded.2).1 with
      | error cause => exact .inl ⟨_, .undetected effective saving detected⟩
      | ok p => exact .inr ⟨c, rfl, .inr ⟨rfl, p, rfl⟩⟩

/-- The clock counts on for as long as the limit at all times of a trace. -/
def InTime (c : Setup) (trace : List Event) : Prop :=
  ∀ secs now, c.timeoutSecs = some secs → .timed now ∈ trace →
    now.nanoseconds + secs.toNat * 1000000000 < Nat.pow 2 63 * 1000000000

theorem inTime_iff {trace : List Event} :
    InTime c trace ↔ ¬∃ event ∈ trace, event.IsTooLate c.executionOptions.timeout := by
  constructor
  · rintro inTime ⟨event, member, late⟩
    cases event with
    | printed => exact late
    | started => exact late
    | timed now =>
      obtain ⟨limit, limited, late⟩ := late
      obtain ⟨secs, given, rfl⟩ := Option.map_eq_some_iff.mp limited
      have early := inTime secs now given member
      exact absurd late (Nat.not_le.mpr early)
  · intro early secs now limited member
    refine Nat.lt_of_not_le fun late => early ⟨_, member, .ofSeconds secs.toNat, ?_, late⟩
    rw [Setup.executionOptions, limited, Option.map_some]

section
variable {launcher : Launcher (StateM σ)} {e : SessionError} {after : σ}

theorem error_of_obstacle (obstacle : Obstacle host o s e) :
    ((attempt host.traced launcher.traced o).run (s, [])).1 = .ok (.error e) := by
  obtain ⟨after, -, seen⟩ := attempt_of_obstacle launcher obstacle
  rw [seen]

theorem ends_of_obstacle (obstacle : Obstacle host o s e)
    (seen : (attempt host.traced launcher.traced o).run (s, []) = (.ok (.error e), after, [])) :
    EndsInSight host launcher o s := by
  dsimp only [EndsInSight]
  rw [seen]
  refine ⟨fun other => ⟨?_, ?_⟩, .inl ⟨e, rfl, rfl, rfl⟩⟩
  · intro stopped
    rwa [← Except.error.inj (Except.ok.inj stopped)]
  · intro obstacle
    rw [← error_of_obstacle obstacle, seen]

theorem ends_of_saved {path : String} (saving : o.saveConfig = some path)
    (seen : (attempt host.traced launcher.traced o).run (s, []) =
      (.ok (.ok 0), after, [.printed .output ("✓ Setup file written to " ++ path)])) :
    EndsInSight host launcher o s := by
  dsimp only [EndsInSight]
  rw [seen]
  refine ⟨fun other => ⟨?_, ?_⟩, .inr (.inl ⟨path, saving, rfl, rfl, rfl⟩)⟩
  · rintro ⟨⟩
  · intro obstacle
    rw [← error_of_obstacle obstacle, seen]

theorem ends_of_report {report : Report} {between : σ} {silent : List Event}
    (effective : effectiveSetup o ((baseSetup host o).run s).1 = .ok c) (running : o.saveConfig = none)
    (detected : Platform.detect (host.facts.run ((baseSetup host o).run s).2).1 = .ok p)
    (whole : let start := launch host o c p (host.facts.run ((baseSetup host o).run s).2).2
      (start.1.execute launcher.runner p (c.registry.plan p)).run.run start.2 = (.ok report, between))
    (seen : (attempt host.traced launcher.traced o).run (s, []) =
      (.ok (.ok report.exitCode), after, (announced o c p).map Notice.event ++ silent ++
        (closing o c p report).map Notice.event))
    (quiet : ∀ event ∈ silent, event.isPrinted = false) : EndsInSight host launcher o s := by
  obtain ⟨last, told, concludes⟩ := closing_concludes (p := p) (halted_launch_iff launcher whole)
  have listed : (announced o c p).map Notice.event =
      if o.nop then [.printed .output ((c.registry.plan p).listing p)] else [] := by
    unfold announced
    cases o.nop <;> rfl
  rw [told, listed] at seen
  dsimp only [EndsInSight]
  rw [seen]
  refine ⟨fun other => ⟨?_, ?_⟩, .inr (.inr ⟨running, c, p, report, between, effective, detected,
    whole, rfl, report.exitCode_or, silent, _, _, concludes, quiet, rfl⟩)⟩
  · rintro ⟨⟩
  · intro obstacle
    rw [← error_of_obstacle obstacle, seen]

/-- A session that ends in sight has one of three statuses. -/
theorem EndsInSight.status_le (ends : EndsInSight host launcher o s) :
    exitStatus ((attempt host.traced launcher.traced o).run (s, [])).1 ≤ 2 := by
  obtain ⟨-, ⟨e, -, status, -⟩ | ⟨path, -, -, status, -⟩ | ⟨-, c, p, report, after, -, -, ran⟩⟩ := ends
  · omega
  · omega
  · obtain ⟨-, -, ⟨status, -⟩ | ⟨status, -⟩, -⟩ := ran <;> omega

end

/-- A session goes the same with a trace. It ends in sight exactly if its clock counts on for as long as
its limit whenever it has started a command; else it breaks down, with a status of its own, and has
printed nothing. -/
theorem ends_in_sight_iff (host : Host (StateM σ)) (launcher : Launcher (StateM σ)) (o : Options)
    (s : σ) :
    let loaded := (baseSetup host o).run s
    let done := (attempt host.traced launcher.traced o).run (s, [])
    let trace := done.2.2
    (attempt host launcher o).run s = (done.1, done.2.1) ∧
      (EndsInSight host launcher o s ↔ ∀ c, effectiveSetup o loaded.1 = .ok c → InTime c trace) ∧
      (¬EndsInSight host launcher o s →
        exitStatus done.1 = 101 ∧ ∀ event ∈ trace, event.isPrinted = false) := by
  intro loaded done trace
  rcases obstacle_or host o s with
    ⟨e, obstacle⟩ | ⟨c, effective, ⟨path, saving, wrote⟩ | ⟨running, p, detected⟩⟩
  case inl =>
    obtain ⟨after, ended, seen⟩ := attempt_of_obstacle launcher obstacle
    have ends := ends_of_obstacle obstacle seen
    refine ⟨by simp only [done, seen, ended], iff_of_true ends ?_, fun fails => absurd ends fails⟩
    simp [trace, done, seen, InTime]
  case inr.inl =>
    obtain ⟨after, ended, seen⟩ := attempt_saved launcher effective saving wrote
    have ends := ends_of_saved saving seen
    refine ⟨by simp only [done, seen, ended], iff_of_true ends ?_, fun fails => absurd ends fails⟩
    simp [trace, done, seen, InTime]
  case inr.inr =>
    obtain ⟨after, silent, ended, seen, quiet, broken⟩ :=
      attempt_performed launcher effective running detected
    refine ⟨by simp only [done, seen, ended], ?_⟩
    generalize came : (StateT.run (Executor.execute _ launcher.runner p _).run _) = ran at seen broken
    have inTime : InTime c trace ↔ ¬∃ b, ran.1 = .error b := by
      have timeless (notice : Notice) : ¬notice.event.IsTooLate c.executionOptions.timeout := id
      rw [inTime_iff, broken]
      simp [trace, done, seen, or_and_right, exists_or, timeless]
    have for_all : (∀ c, effectiveSetup o loaded.1 = .ok c → InTime c trace) ↔ InTime c trace := by
      simp [loaded, effective]
    rw [for_all, inTime]
    obtain ⟨b | report, between⟩ := ran
    case ok =>
      have ends := ends_of_report effective running detected came seen quiet
      exact ⟨iff_of_true ends (by simp), fun fails => absurd ends fails⟩
    case error =>
      have breaks : exitStatus done.1 = 101 := by simp only [done, seen]; rfl
      refine ⟨iff_of_false ?_ (by simp), fun _ => ⟨breaks, ?_⟩⟩
      · intro ends
        have status : exitStatus done.1 ≤ 2 := ends.status_le
        omega
      · have earnest := not_dry_of_broken launcher came
        simpa [trace, done, seen, announced, ending, earnest] using quiet

/-- A host under Ubuntu that has no files to read. -/
def ubuntuHost : Host (StateM Unit) where
  readText _ := return .error (.custom "no such file")
  writeText _ _ := return .ok ()
  facts := return ⟨"linux", "x86_64", some "ID=ubuntu\nVERSION_ID=22.04\n", none⟩
  tools := return ⟨false, true, false⟩
  print _ _ := return ()

/-- Its commands all succeed at once. -/
def promptLauncher : Launcher (StateM Unit) where
  start _ := return .ok ()
  now := return .ofSeconds 0
  await _ _ := return .ok (.ok "")

/-- The longest limit that the command line has takes the clock past its end. -/
theorem longest_limit_breaks_down :
    ∃ o, CommandLine.parse ["--timeout", "18446744073709551615"] = .ok o ∧
      exitStatus ((attempt ubuntuHost.traced promptLauncher.traced o).run ((), [])).1 = 101 ∧
      ¬EndsInSight ubuntuHost promptLauncher o () := by
  have parsed : CommandLine.parse ["--timeout", "18446744073709551615"] =
      .ok { timeout := some 18446744073709551615 } := by decide +kernel
  have breaks : exitStatus ((attempt ubuntuHost.traced promptLauncher.traced
      { timeout := some 18446744073709551615 }).run ((), [])).1 = 101 := by decide +kernel
  refine ⟨_, parsed, breaks, fun ends => ?_⟩
  have status := ends.status_le
  omega

end Session
end HostSetup
