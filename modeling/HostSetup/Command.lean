/-!
Commands, ready to be started.
-/
namespace HostSetup

/-- A program with its arguments, or a line for the shell. -/
inductive Invocation
  | exec (program : String) (args : List String)
  | shell (line : String)
  deriving DecidableEq, Repr, Inhabited

/-- A dry command is shown, never started. -/
structure Command where
  invocation : Invocation
  dry : Bool
  deriving DecidableEq, Repr, Inhabited

namespace Command

def isShell (c : Command) : Bool :=
  match c.invocation with
  | .exec .. => false
  | .shell _ => true

def program (c : Command) : String :=
  match c.invocation with
  | .exec program _ => program
  | .shell _ => "sh"

def args (c : Command) : List String :=
  match c.invocation with
  | .exec _ args => args
  | .shell line => ["-c", line]

/-- As a person would type it; of a shell command only the line. -/
def render (c : Command) : String :=
  match c.invocation with
  | .exec program args => " ".intercalate (program :: args)
  | .shell line => line

end Command
end HostSetup
