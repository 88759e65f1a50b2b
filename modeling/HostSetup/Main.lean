import HostSetup.Session

/-!
The program: the command line, and the machine it runs on as a host. It has no way of starting
other programs, and answers every command with that.
-/
open HostSetup

namespace HostSetup.Program

def usage : String := Text.joinLines [
  "Set up system for build.",
  "",
  "Usage: system-setup [OPTIONS]",
  "",
  "Options:",
  "  -n, --nop                 No operation: resolve and print the plan without executing anything",
  "      --continue-on-error   Record failures and keep going instead of stopping at the first one",
  "      --timeout <SECS>      Per-action timeout in seconds",
  "  -c, --config <FILE>       JSON setup file to use instead of the built-in policy",
  "      --save-config <FILE>  Write the effective setup file and exit",
  "      --python <PATH>       Python interpreter for pip installs",
  "      --aur-helper <NAME>   AUR helper used for packages marked from-aur",
  "      --no-sudo             Never prefix package-manager commands with sudo",
  "      --no-refresh          Skip the repository metadata refresh",
  "  -v, --verbose             Debug logging",
  "  -h, --help                Print help",
  "  -V, --version             Print version"]

def version : String := "system-setup 1.0.0"

def describe : UsageError → String
  | .unknownArgument => "unexpected argument found"
  | .invalidValue => "a value is required but none was supplied"
  | .valueValidation => "invalid value"
  | .argumentConflict => "an argument cannot be used multiple times"
  | .tooManyValues => "unexpected value for a flag"
  | .displayHelp => usage
  | .displayVersion => version

/-- A number of an error, or that number counted down from `2 ^ 32`. -/
def errorNumber (code : UInt32) : Int :=
  if code.toNat < Nat.pow 2 31 then code.toNat else UInt32.size - code.toNat

/-- The number under which the operating system reported an error. -/
def reported : IO.Error → IoError
  | .alreadyExists _ code _ | .otherError code _ | .resourceBusy code _ | .resourceVanished code _
  | .unsupportedOperation code _ | .hardwareFault code _ | .unsatisfiedConstraints code _
  | .illegalOperation code _ | .protocolError code _ | .timeExpired code _ | .interrupted _ code _
  | .noFileOrDirectory _ code _ | .invalidArgument _ code _ | .permissionDenied _ code _
  | .resourceExhausted _ code _ | .inappropriateType _ code _ | .noSuchThing _ code _ =>
    .os (errorNumber code)
  | .unexpectedEof => .custom "unexpected end of file"
  | .userError message => .custom message

def attempt (action : IO α) : IO (Except IoError α) := do
  match ← action.toBaseIO with
  | .ok value => return .ok value
  | .error e => return .error (reported e)

def readText (path : String) : IO (Except IoError String) := do
  match ← attempt (IO.FS.readBinFile path) with
  | .error cause => return .error cause
  | .ok bytes =>
    match String.fromUTF8? bytes with
    | some text => return .ok text
    | none => return .error (.custom "stream did not contain valid UTF-8")

/-- The first of some files of the system that can be read. -/
def systemText? : List String → IO (Option String)
  | [] => return none
  | path :: others => do
    match ← readText path with
    | .ok text => return some text
    | .error _ => systemText? others

def facts : IO HostFacts := do
  let machine := Text.trim ((← systemText? ["/proc/sys/kernel/arch"]).getD "x86_64")
  return ⟨"linux", machine, ← systemText? ["/etc/os-release", "/usr/lib/os-release"], none⟩

def hasProgram (name : String) : IO Bool := do
  let directories := ((← IO.getEnv "PATH").getD "").toList.splitOn ':'
  directories.anyM fun directory => do
    let opened ← attempt (IO.FS.Handle.mk (.ofList directory ++ "/" ++ name) .read)
    return opened.toOption.isSome

/-- The second number behind `Uid:` is the user whose rights the program has. -/
def isRoot : IO Bool := do
  let status := (← systemText? ["/proc/self/status"]).getD ""
  return (Text.lines status).any fun line =>
    match Text.words line with
    | "Uid:" :: _ :: effective :: _ => effective = "0"
    | _ => false

def host : Host IO where
  readText := readText
  writeText path text := attempt (IO.FS.writeFile path text)
  facts := facts
  tools := return ⟨← hasProgram "dnf", ← hasProgram "sudo", ← isRoot⟩
  print
    | .output, text => IO.println text
    | .errors, text => IO.eprintln text

def launcher : Launcher IO where
  start _ := return .error (.os Errno.notImplemented)
  now := return ⟨← IO.monoNanosNow⟩
  await command _ := return .error (.spawn command.render (.os Errno.notImplemented))

end HostSetup.Program

open HostSetup.Program in
def main (args : List String) : IO UInt32 := do
  match CommandLine.parse args with
  | .error .displayHelp => IO.println usage; return 0
  | .error .displayVersion => IO.println version; return 0
  | .error e => IO.eprintln ("error: " ++ describe e); return 2
  | .ok options => do
    let result ← Session.attempt host launcher options
    match result with
    | .ok (.ok _) => pure ()
    | .ok (.error e) => IO.eprintln ("✗ " ++ e.message)
    | .error broken => IO.eprintln broken.message
    return .ofNat (Session.exitStatus result)
