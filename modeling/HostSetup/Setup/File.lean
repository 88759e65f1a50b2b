import HostSetup.Setup.Codec

/-!
Setup files.
-/
namespace HostSetup

inductive SetupFileError
  | unreadable (path : String) (cause : IoError)
  | unparsable (problem : Json.Problem)
  | unwritable (path : String) (cause : IoError)
  deriving Repr

namespace SetupFileError

def context : SetupFileError → String
  | .unreadable path _ => "Failed to read setup file from " ++ Text.quoted path
  | .unparsable _ => "Failed to parse setup file JSON"
  | .unwritable path _ => "Failed to write setup file to " ++ Text.quoted path

def message (e : SetupFileError) : String :=
  e.context ++ ": " ++ match e with
    | .unreadable _ cause | .unwritable _ cause => cause.message
    | .unparsable problem => problem.message

end SetupFileError

namespace Setup

/-- The setup in a file, by what reading the file gives. -/
def ofFile (path : String) : Except IoError String → Except SetupFileError Setup
  | .ok text => (parse text).mapError .unparsable
  | .error cause => .error (.unreadable path cause)

end Setup
end HostSetup
