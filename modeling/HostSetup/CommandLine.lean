/-!
The command line. Words are taken from left to right, and the first trouble is reported; what is
wrong with the value of a setting shows only when the next known option or the end is reached.
-/
namespace HostSetup

structure Options where
  nop : Bool := false
  continueOnError : Bool := false
  timeout : Option UInt64 := none
  config : Option String := none
  saveConfig : Option String := none
  python : Option String := none
  aurHelper : Option String := none
  noSudo : Bool := false
  noRefresh : Bool := false
  verbose : Bool := false
  deriving DecidableEq, Repr, Inhabited

/-- Why a command line gives no options. -/
inductive UsageError
  | unknownArgument
  | invalidValue
  | valueValidation
  | argumentConflict
  | tooManyValues
  | displayHelp
  | displayVersion
  deriving DecidableEq, Repr, Inhabited

namespace CommandLine

/-- Options without a value. -/
inductive Flag
  | nop
  | continueOnError
  | noSudo
  | noRefresh
  | verbose
  | help
  | version
  deriving DecidableEq, Repr

/-- Options with a value. -/
inductive Setting
  | timeout
  | config
  | saveConfig
  | python
  | aurHelper
  deriving DecidableEq, Repr

def flagNames : List (String × Flag) := [
  ("nop", .nop), ("continue-on-error", .continueOnError), ("no-sudo", .noSudo),
  ("no-refresh", .noRefresh), ("verbose", .verbose), ("help", .help), ("version", .version)]

def flagLetters : List (Char × Flag) := [('n', .nop), ('v', .verbose), ('h', .help), ('V', .version)]

def settingNames : List (String × Setting) := [
  ("timeout", .timeout), ("config", .config), ("save-config", .saveConfig), ("python", .python),
  ("aur-helper", .aurHelper)]

def settingLetters : List (Char × Setting) := [('c', .config)]

def setOnce (held : Bool) : Except UsageError Bool :=
  if held then .error .argumentConflict else .ok true

def giveOnce (held : Option α) (value : Except UsageError α) : Except UsageError (Option α) :=
  match held with
  | some _ => .error .argumentConflict
  | none => some <$> value

def raise (o : Options) : Flag → Except UsageError Options
  | .nop => do return { o with nop := ← setOnce o.nop }
  | .continueOnError => do return { o with continueOnError := ← setOnce o.continueOnError }
  | .noSudo => do return { o with noSudo := ← setOnce o.noSudo }
  | .noRefresh => do return { o with noRefresh := ← setOnce o.noRefresh }
  | .verbose => do return { o with verbose := ← setOnce o.verbose }
  | .help => .error .displayHelp
  | .version => .error .displayVersion

def path (value : String) : Except UsageError String :=
  if value.isEmpty then .error .invalidValue else .ok value

def unsigned? (cs : List Char) : Option Nat :=
  if cs.isEmpty || !cs.all Char.isDigit then none
  else some (cs.foldl (fun n c => n * 10 + (c.toNat - '0'.toNat)) 0)

/-- A whole number of seconds from 1 up to what 64 bits hold; a plus sign may stand before it. -/
def seconds (value : String) : Except UsageError UInt64 :=
  let digits := match value.toList with
    | '+' :: rest => rest
    | cs => cs
  match unsigned? digits with
  | some n => if 0 < n ∧ n < UInt64.size then .ok (.ofNat n) else .error .valueValidation
  | none => .error .valueValidation

def assign (o : Options) (value : String) : Setting → Except UsageError Options
  | .timeout => do return { o with timeout := ← giveOnce o.timeout (seconds value) }
  | .config => do return { o with config := ← giveOnce o.config (path value) }
  | .saveConfig => do return { o with saveConfig := ← giveOnce o.saveConfig (path value) }
  | .python => do return { o with python := ← giveOnce o.python (.ok value) }
  | .aurHelper => do return { o with aurHelper := ← giveOnce o.aurHelper (.ok value) }

/-- A setting waits for its value, or with it to be looked at. After two dashes alone nothing more
may follow. -/
structure State where
  options : Options := {}
  pending : Option (Setting × Option String) := none
  closed : Bool := false
  deriving DecidableEq, Repr

namespace State

/-- The options with the setting that was pending. -/
def settle (s : State) : Except UsageError Options :=
  match s.pending with
  | none => .ok s.options
  | some (_, none) => .error .invalidValue
  | some (setting, some value) => assign s.options value setting

def onFlag (s : State) (flag : Flag) : Except UsageError State := do
  return { options := ← raise (← s.settle) flag }

def onSetting (s : State) (setting : Setting) : Option String → Except UsageError State
  | some value => do return { options := ← assign (← s.settle) value setting }
  | none => do return { options := ← s.settle, pending := some (setting, none) }

def onLong (s : State) (name : String) (value? : Option String) : Except UsageError State :=
  match flagNames.lookup name, settingNames.lookup name with
  | some flag, _ => if value?.isSome then .error .tooManyValues else s.onFlag flag
  | none, some setting => s.onSetting setting value?
  | none, none => .error .unknownArgument

/-- The letters behind one dash: what follows the letter of a setting is its value, with or without
an equals sign before it. -/
def onLetters (s : State) : List Char → Except UsageError State
  | [] => .ok s
  | letter :: rest =>
    match flagLetters.lookup letter, settingLetters.lookup letter with
    | some flag, _ => do (← s.onFlag flag).onLetters rest
    | none, some setting =>
      s.onSetting setting (match rest with
        | [] => none
        | '=' :: value => some (.ofList value)
        | value => some (.ofList value))
    | none, none => .error .unknownArgument

/-- A word that is no option: it can only be the value that is waited for. -/
def onValue (s : State) (word : String) : Except UsageError State :=
  match s.pending with
  | some (setting, none) => .ok { s with pending := some (setting, some word) }
  | _ => .error .unknownArgument

def step (s : State) (word : String) : Except UsageError State :=
  if s.closed then .error .unknownArgument
  else match word.toList with
    | ['-', '-'] => .ok { s with closed := true }
    | '-' :: '-' :: rest =>
      match rest.span (· ≠ '=') with
      | (name, []) => s.onLong (.ofList name) none
      | (name, _ :: value) => s.onLong (.ofList name) (some (.ofList value))
    | '-' :: letter :: rest => s.onLetters (letter :: rest)
    | _ => s.onValue word

end State

/-- The words behind the name of the program. -/
def parse (words : List String) : Except UsageError Options := do
  (← words.foldlM State.step {}).settle

end CommandLine
end HostSetup
