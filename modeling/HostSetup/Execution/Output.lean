import HostSetup.Error
import HostSetup.Text.Blank

/-!
What a command leaves behind.
-/
namespace HostSetup

/-- A command that was ended from outside has no exit code. -/
structure CommandOutput where
  stdout : String
  stderr : String
  exitCode : Option Int
  success : Bool
  deriving DecidableEq, Repr, Inhabited

namespace CommandOutput

def ok (stdout : String) : CommandOutput := ⟨stdout, "", some 0, true⟩

def failed (exitCode : Int) (stderr : String) : CommandOutput := ⟨"", stderr, some exitCode, false⟩

/-- Both texts without the blanks around them; an empty one is left out. -/
def combined (o : CommandOutput) : String :=
  "\n".intercalate ([Text.trim o.stdout, Text.trim o.stderr].filter (!·.isEmpty))

def ensureSuccess (command : String) (o : CommandOutput) : Except SetupError Unit :=
  if o.success then .ok () else .error (.commandFailed command (o.exitCode.getD (-1)) o.combined)

end CommandOutput
end HostSetup
