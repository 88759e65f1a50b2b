import HostSetup.Execution.Basic

/-!
Starting commands. A command with a limit is given its deadline when it has been started. The clock
counts whole seconds in 63 bits, and a deadline that it cannot show breaks the program down.
-/
namespace HostSetup

/-- No time that the clock shows is as late as this. -/
def clockEnd : Duration := .ofSeconds (Nat.pow 2 63)

def Duration.deadline? (now limit : Duration) : Option Duration :=
  let sum : Duration := ⟨now.nanoseconds + limit.nanoseconds⟩
  if sum.nanoseconds < clockEnd.nanoseconds then some sum else none

/-- The command that was started, and the sum that the clock cannot show. -/
structure Breakdown where
  command : Command
  now : Duration
  limit : Duration
  deriving DecidableEq, Repr

def Breakdown.message (b : Breakdown) : String :=
  "no deadline " ++ b.limit.render ++ " from now for: " ++ b.command.render

/-- How much time a command has, and when that is over. -/
structure Allowance where
  limit : Duration
  deadline : Duration
  deriving DecidableEq, Repr

structure Launcher (m : Type → Type) where
  start : Command → m (Except IoError Unit)
  now : m Duration
  /-- Waits for a command that was started. -/
  await : Command → Option Allowance → m (Except SetupError CommandOutput)

namespace Launcher

variable {m : Type → Type} [Monad m]

/-- Waits for a command that was started, for no longer than the limit from now on. -/
def awaitWithin (launcher : Launcher m) (command : Command) (limit : Duration) :
    ExceptT Breakdown m (Except SetupError CommandOutput) := do
  let now ← launcher.now
  match now.deadline? limit with
  | some deadline => launcher.await command (some ⟨limit, deadline⟩)
  | none => throw ⟨command, now, limit⟩

/-- The answer about a command that cannot be started is the reason. -/
def runner (launcher : Launcher m) : Runner (ExceptT Breakdown m) := fun command timeout => do
  match ← launcher.start command with
  | .error cause => return .error (.spawn command.render cause)
  | .ok () =>
    match timeout with
    | some limit => launcher.awaitWithin command limit
    | none => launcher.await command none

end Launcher
end HostSetup
