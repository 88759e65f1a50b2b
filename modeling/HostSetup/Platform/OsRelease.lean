import HostSetup.Platform.Basic
import HostSetup.Text.Letter
import HostSetup.Text.Lines

/-!
Linux hosts, by the text of their os-release file: assignments `KEY=value`, a line each.
-/
namespace HostSetup
namespace OsRelease

/-- Quotes around a value are dropped, the double ones first. -/
def value (s : String) : String := Text.unwrap '\'' (Text.unwrap '"' (Text.trim s))

/-- Blank lines, comments and lines without an equals sign assign nothing. -/
def assignment? (line : String) : Option (String × String) :=
  let line := Text.trim line
  if line.isEmpty || line.toList.head? = some '#' then none
  else (Text.cut? '=' line).map fun (key, held) => (Text.trim key, value held)

def assignments (content : String) : List (String × String) :=
  (Text.lines content).filterMap assignment?

/-- The value assigned last. -/
def lookup? (key : String) (vars : List (String × String)) : Option String :=
  (vars.reverse.find? (·.1 == key)).map (·.2)

/-- Distributions whose releases are told apart by their major version alone. -/
def majorOnly : List String := ["centos", "rhel", "rocky", "almalinux", "ol"]

def majorVersion (version : String) : String := .ofList (version.toList.takeWhile (· ≠ '.'))

/-- The first known name among those the distribution says it is like. -/
def likeFamily? (like : String) : Option Family :=
  (Text.words like).findSome? fun id => Family.ofDistro? (Text.lowercase id)

end OsRelease

open OsRelease in
def Platform.ofOsRelease (content arch : String) : Platform :=
  let vars := assignments content
  let distro := Text.lowercase ((lookup? "ID" vars).getD "")
  let family := match Family.ofDistro? distro with
    | some family => family
    | none => ((lookup? "ID_LIKE" vars).bind likeFamily?).getD .other
  let version := (lookup? "VERSION_ID" vars).getD ""
  ⟨family, distro, if distro ∈ majorOnly then majorVersion version else version, arch⟩

end HostSetup
