import HostSetup.Action.Codec
import HostSetup.Json.Printer
import HostSetup.Setup.Basic

/-!
Setups in JSON. Every field may be missing and has then a value of its own; lists of overrides and
limits that are not there are not written.
-/
namespace HostSetup
open Json (Draft Problem Source Shape)

namespace Setup

def phasesJson (phases : NameMap (List Action)) : Json :=
  .record (phases.entries.map fun (name, actions) => (name, .list (actions.map (·.toJson))))

def toJson (c : Setup) : Json :=
  Json.recordOf [
    ("phases", some (phasesJson c.phases)),
    ("overrides", if c.overrides.isEmpty then none else some (.list (c.overrides.map (·.toJson)))),
    ("python", some (.text c.python)),
    ("readies", some (.text c.readies)),
    ("aur_helper", some (.text c.aurHelper)),
    ("refresh", some (.bool c.refresh)),
    ("continue_on_error", some (.bool c.continueOnError)),
    ("timeout_secs", c.timeoutSecs.map fun secs => Json.natural secs.toNat)]

structure Parts where
  phases : Option (NameMap (List Action)) := none
  overrides : Option (List PackageOverride) := none
  python : Option String := none
  readies : Option String := none
  aurHelper : Option String := none
  refresh : Option Bool := none
  continueOnError : Option Bool := none
  timeoutSecs : Option (Option UInt64) := none

def Parts.put (source : Source) (parts : Parts) (name : String) (d : Draft) : Except Problem Parts :=
  if name = "phases" then do
    let phases := d.entries fun actions => actions.items (Action.decode source)
    return { parts with phases := ← Json.once name parts.phases phases }
  else if name = "overrides" then do
    let overrides := d.items (PackageOverride.decode source)
    return { parts with overrides := ← Json.once name parts.overrides overrides }
  else if name = "python" then do
    return { parts with python := ← Json.once name parts.python d.string }
  else if name = "readies" then do
    return { parts with readies := ← Json.once name parts.readies d.string }
  else if name = "aur_helper" then do
    return { parts with aurHelper := ← Json.once name parts.aurHelper d.string }
  else if name = "refresh" then do
    return { parts with refresh := ← Json.once name parts.refresh d.boolean }
  else if name = "continue_on_error" then do
    return { parts with continueOnError := ← Json.once name parts.continueOnError d.boolean }
  else do
    return { parts with timeoutSecs := ← Json.once name parts.timeoutSecs (d.optional Draft.unsigned) }

def Parts.finish (parts : Parts) : Setup where
  phases := parts.phases.getD .empty
  overrides := parts.overrides.getD []
  python := parts.python.getD defaultPython
  readies := parts.readies.getD defaultReadies
  aurHelper := parts.aurHelper.getD defaultAurHelper
  refresh := parts.refresh.getD true
  continueOnError := parts.continueOnError.getD false
  timeoutSecs := parts.timeoutSecs.getD none

def shape (source : Source) : Shape Parts Setup where
  wanted := .struct "SetupConfig"
  whole := .structOf "SetupConfig" 8
  fields := ["phases", "overrides", "python", "readies", "aur_helper", "refresh",
    "continue_on_error", "timeout_secs"]
  start := {}
  put := Parts.put source
  finish parts := .ok parts.finish

def decode (source : Source) (d : Draft) : Except Problem Setup := (shape source).decode source d

def parse (text : String) : Except Problem Setup := Json.decodeText (decode .arriving) text

/-- One item a line, as it is written to files. -/
def fileText (c : Setup) : String := c.toJson.pretty

end Setup
end HostSetup
