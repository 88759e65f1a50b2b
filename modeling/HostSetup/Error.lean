import HostSetup.Duration
import HostSetup.Host.Errno

/-!
Errors of a setup, and their messages.
-/
namespace HostSetup

inductive SetupError
  /-- The operating system of the host is not known. -/
  | detection (reason : String)
  /-- The family has no command for this kind of action. -/
  | unsupported (kind family : String)
  /-- A command ran and did not succeed. -/
  | commandFailed (command : String) (code : Int) (output : String)
  /-- A command could not be started. -/
  | spawn (command : String) (cause : IoError)
  /-- A command took longer than an action may. -/
  | timeout (command : String) (limit : Duration)
  | config (reason : String)
  | invalidAction (reason : String)
  | io (cause : IoError)
  deriving DecidableEq, Repr, Inhabited

def SetupError.message : SetupError → String
  | .detection reason => "Platform detection failed: " ++ reason
  | .unsupported kind family =>
    "Unsupported platform: no '" ++ kind ++ "' translation for family '" ++ family ++ "'"
  | .commandFailed command code _ => "Command failed (exit code " ++ toString code ++ "): " ++ command
  | .spawn command cause => "Failed to spawn '" ++ command ++ "': " ++ cause.message
  | .timeout command limit => "Command timed out after " ++ limit.render ++ ": " ++ command
  | .config reason => "Configuration error: " ++ reason
  | .invalidAction reason => "Invalid action: " ++ reason
  | .io cause => "IO error: " ++ cause.message

end HostSetup
