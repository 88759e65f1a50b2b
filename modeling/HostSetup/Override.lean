import HostSetup.Platform.Basic
import HostSetup.Json.Decode

/-!
Package overrides: on one exact release of a distribution, one package is replaced by another
specification. The override given last for a package is the one that counts, and a replacement is
not looked up again.
-/
namespace HostSetup
open Json (Draft Problem Source Shape)

structure PackageOverride where
  distro : String
  version : String
  package : String
  replacement : String
  deriving DecidableEq, Repr, Inhabited

namespace PackageOverride

def toJson (o : PackageOverride) : Json :=
  .record [("distro", .text o.distro), ("version", .text o.version), ("package", .text o.package),
    ("replacement", .text o.replacement)]

structure Parts where
  distro : Option String := none
  version : Option String := none
  package : Option String := none
  replacement : Option String := none

def Parts.put (parts : Parts) (name : String) (d : Draft) : Except Problem Parts :=
  if name = "distro" then do
    return { parts with distro := ← Json.once name parts.distro d.string }
  else if name = "version" then do
    return { parts with version := ← Json.once name parts.version d.string }
  else if name = "package" then do
    return { parts with package := ← Json.once name parts.package d.string }
  else do
    return { parts with replacement := ← Json.once name parts.replacement d.string }

def Parts.finish (parts : Parts) : Except String PackageOverride := do
  return {
    distro := ← Json.need "distro" parts.distro
    version := ← Json.need "version" parts.version
    package := ← Json.need "package" parts.package
    replacement := ← Json.need "replacement" parts.replacement }

def shape : Shape Parts PackageOverride where
  wanted := .struct "PackageOverride"
  whole := .structOf "PackageOverride" 4
  fields := ["distro", "version", "package", "replacement"]
  start := {}
  put := Parts.put
  finish := Parts.finish

def decode (source : Source) (d : Draft) : Except Problem PackageOverride := shape.decode source d

end PackageOverride

/-- The replacements of one release, by package. -/
abbrev Replacements := List (String × String)

/-- A sparse table: for each release that has any, its replacements. -/
structure PackageOverrides where
  releases : List ((String × String) × Replacements) := []
  deriving DecidableEq, Repr, Inhabited

namespace PackageOverrides

def setReplacement (package replacement : String) : Replacements → Replacements
  | [] => [(package, replacement)]
  | (name, held) :: rest =>
    if name = package then (name, replacement) :: rest
    else (name, held) :: setReplacement package replacement rest

def setRelease (o : PackageOverride) :
    List ((String × String) × Replacements) → List ((String × String) × Replacements)
  | [] => [((o.distro, o.version), [(o.package, o.replacement)])]
  | (release, replacements) :: rest =>
    if release = (o.distro, o.version) then
      (release, setReplacement o.package o.replacement replacements) :: rest
    else (release, replacements) :: setRelease o rest

def insert (o : PackageOverride) (t : PackageOverrides) : PackageOverrides := ⟨setRelease o t.releases⟩

def ofList (os : List PackageOverride) : PackageOverrides := os.foldl (fun t o => t.insert o) {}

def replacement? (t : PackageOverrides) (distro version package : String) : Option String := do
  let (_, replacements) ← t.releases.find? (·.1 == (distro, version))
  let (_, replacement) ← replacements.find? (·.1 == package)
  return replacement

/-- What to install for a package: its replacement on this release, or the package itself. -/
def resolve (t : PackageOverrides) (p : Platform) (package : String) : String :=
  (t.replacement? p.distro p.version package).getD package

end PackageOverrides
end HostSetup
