import HostSetup.CommandLine
import HostSetup.Execution.Summary
import HostSetup.Plan.Listing
import HostSetup.Platform.Detection
import HostSetup.Process.Launch
import HostSetup.Setup.Builtin
import HostSetup.Setup.File
import HostSetup.Setup.Validation

/-!
A whole session: from the options to the exit code. It is written against an abstract host and an
abstract runner, so that it can be run on a real machine as well as reasoned about on any. A runner
either answers, whatever it is asked for, or breaks the session down.
-/
namespace HostSetup

/-- Where texts are printed. -/
inductive Channel
  | output
  | errors
  deriving DecidableEq, Repr

/-- What the user is told. -/
inductive Notice
  | saved (path : String)
  | listing (p : Platform) (plan : Plan)
  | failure (result : StepResult)
  | summary (report : Report)
  | complete (p : Platform)
  deriving DecidableEq, Repr

namespace Notice

def text : Notice → String
  | .saved path => "✓ Setup file written to " ++ path
  | .listing p plan => plan.listing p
  | .failure result => result.account
  | .summary report => report.summary
  | .complete p => "✓ System setup complete for " ++ p.render

def channel : Notice → Channel
  | .failure _ => .errors
  | _ => .output

end Notice

/-- The host that is set up. What is printed is a line or several, without the last line feed. -/
structure Host (m : Type → Type) where
  readText : String → m (Except IoError String)
  writeText : String → String → m (Except IoError Unit)
  facts : m HostFacts
  tools : m HostTools
  print : Channel → String → m Unit

namespace Host

variable {m : Type → Type}

def tell (host : Host m) (notice : Notice) : m Unit := host.print notice.channel notice.text

/-- The same host, for sessions that may break down. -/
def lifted [Monad m] (host : Host m) : Host (ExceptT Breakdown m) where
  readText path := ExceptT.lift (host.readText path)
  writeText path text := ExceptT.lift (host.writeText path text)
  facts := ExceptT.lift host.facts
  tools := ExceptT.lift host.tools
  print channel text := ExceptT.lift (host.print channel text)

end Host

/-- Why a session ends before anything is run. -/
inductive SessionError
  | file (error : SetupFileError)
  | invalid (error : SetupError)
  | undetected (error : SetupError)
  deriving Repr

def SessionError.message : SessionError → String
  | .file error => error.message
  | .invalid error => "Invalid setup file: " ++ error.message
  | .undetected error => "Cannot determine host platform: " ++ error.message

/-- Options stand above what the setup says. -/
def Options.override (o : Options) (c : Setup) : Setup :=
  { c with
    python := o.python.getD c.python
    aurHelper := o.aurHelper.getD c.aurHelper
    timeoutSecs := o.timeout <|> c.timeoutSecs
    continueOnError := o.continueOnError || c.continueOnError
    refresh := !o.noRefresh && c.refresh }

namespace Session

variable {m : Type → Type} [Monad m]

/-- The setup of a file, or the builtin one. -/
def baseSetup (host : Host m) (o : Options) : m (Except SetupFileError Setup) :=
  match o.config with
  | some path => Setup.ofFile path <$> host.readText path
  | none => pure (.ok .builtin)

def effectiveSetup (o : Options) (base : Except SetupFileError Setup) : Except SessionError Setup := do
  let c := o.override (← base.mapError .file)
  c.validate.mapError .invalid
  return c

def save (host : Host m) (c : Setup) (path : String) : m (Except SessionError Nat) := do
  match ← host.writeText path c.fileText with
  | .error cause => return .error (.file (.unwritable path cause))
  | .ok () => do
    host.tell (.saved path)
    return .ok 0

/-- After the run: the failure that halted it, and the summary or that all is done. -/
def tellReport (host : Host m) (o : Options) (c : Setup) (p : Platform) (report : Report) : m Unit := do
  if report.halted then
    if let some failure := report.firstFailure then host.tell (.failure failure)
  if o.nop || c.continueOnError then host.tell (.summary report)
  else if !report.hasFailures then host.tell (.complete p)

def perform (host : Host m) (runner : Runner m) (o : Options) (c : Setup) (p : Platform) : m Nat := do
  let plan := c.registry.plan p
  let translator := { c.translator.forHost (← host.tools) (!o.noSudo) with dryRun := o.nop }
  if o.nop then host.tell (.listing p plan)
  let report ← Executor.execute ⟨translator, c.executionOptions⟩ runner p plan
  tellReport host o c p report
  return report.exitCode

/-- The exit code: 1 if something failed, else 0. -/
def run (host : Host m) (runner : Runner m) (o : Options) : m (Except SessionError Nat) := do
  match effectiveSetup o (← baseSetup host o) with
  | .error e => return .error e
  | .ok c =>
    match o.saveConfig with
    | some path => save host c path
    | none =>
      match Platform.detect (← host.facts) with
      | .error e => return .error (.undetected e)
      | .ok p => .ok <$> perform host runner o c p

/-- A session that starts its commands by itself. -/
def attempt (host : Host m) (launcher : Launcher m) (o : Options) :
    m (Except Breakdown (Except SessionError Nat)) :=
  (run host.lifted launcher.runner o).run

/-- For sessions that end before anything is run. -/
def fatalExit : Nat := 2

/-- For sessions that break down. -/
def brokenExit : Nat := 101

def exitStatus : Except Breakdown (Except SessionError Nat) → Nat
  | .ok (.ok code) => code
  | .ok (.error _) => fatalExit
  | .error _ => brokenExit

end Session
end HostSetup
