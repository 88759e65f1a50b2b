import HostSetup.Proofs.Action.Codec
import HostSetup.Setup.Codec

/-!
What setups and overrides are decoded from, field by field.
-/
namespace HostSetup
open Json (Draft Source Shape held)

namespace PackageOverride

def Parts.given (o : PackageOverride) (read : List String) : Parts where
  distro := held read "distro" o.distro
  version := held read "version" o.version
  package := held read "package" o.package
  replacement := held read "replacement" o.replacement

inductive Fits (o : PackageOverride) : String → Draft → Prop
  | distro {d} : d.string = .ok o.distro → Fits o "distro" d
  | version {d} : d.string = .ok o.version → Fits o "version" d
  | package {d} : d.string = .ok o.package → Fits o "package" d
  | replacement {d} : d.string = .ok o.replacement → Fits o "replacement" d

theorem gathers (o : PackageOverride) : shape.Gathers (Parts.given o) o.Fits where
  start := rfl
  put := by
    intro read name d fresh fits
    cases fits <;> rename_i value <;>
      simp [shape, Parts.put, Parts.given, Json.once, held, fresh, value]
  pass := by
    intro read name other
    simp_all [shape, Parts.given, held, eq_comm]

theorem finish_given {o : PackageOverride} {read : List String}
    (complete : ∀ name ∈ shape.fields, name ∈ read) : (Parts.given o read).finish = .ok o := by
  simp only [shape, List.forall_mem_cons] at complete
  obtain ⟨distro, version, package, replacement, _⟩ := complete
  rw [Parts.finish, Parts.given, Json.held_of_mem _ distro, Json.held_of_mem _ version,
    Json.held_of_mem _ package, Json.held_of_mem _ replacement]
  rfl

theorem agrees_members (o : PackageOverride) :
    shape.Agrees o.Fits [("distro", .text o.distro), ("version", .text o.version),
      ("package", .text o.package), ("replacement", .text o.replacement)] := by
  intro m mem _
  simp only [List.mem_cons, List.not_mem_nil, or_false] at mem
  rcases mem with rfl | rfl | rfl | rfl
  · exact .distro rfl
  · exact .version rfl
  · exact .package rfl
  · exact .replacement rfl

end PackageOverride

namespace Setup

def Parts.given (c : Setup) (read : List String) : Parts where
  phases := held read "phases" c.phases
  overrides := held read "overrides" c.overrides
  python := held read "python" c.python
  readies := held read "readies" c.readies
  aurHelper := held read "aur_helper" c.aurHelper
  refresh := held read "refresh" c.refresh
  continueOnError := held read "continue_on_error" c.continueOnError
  timeoutSecs := held read "timeout_secs" c.timeoutSecs

inductive Fits (source : Source) (c : Setup) : String → Draft → Prop
  | phases {d} : d.entries (fun actions => actions.items (Action.decode source)) = .ok c.phases →
    Fits source c "phases" d
  | overrides {d} : d.items (PackageOverride.decode source) = .ok c.overrides →
    Fits source c "overrides" d
  | python {d} : d.string = .ok c.python → Fits source c "python" d
  | readies {d} : d.string = .ok c.readies → Fits source c "readies" d
  | aurHelper {d} : d.string = .ok c.aurHelper → Fits source c "aur_helper" d
  | refresh {d} : d.boolean = .ok c.refresh → Fits source c "refresh" d
  | continueOnError {d} : d.boolean = .ok c.continueOnError → Fits source c "continue_on_error" d
  | timeoutSecs {d} : d.optional Draft.unsigned = .ok c.timeoutSecs → Fits source c "timeout_secs" d

theorem gathers (source : Source) (c : Setup) :
    (shape source).Gathers (Parts.given c) (c.Fits source) where
  start := rfl
  put := by
    intro read name d fresh fits
    cases fits <;> rename_i value <;>
      simp [shape, Parts.put, Parts.given, Json.once, held, fresh, value]
  pass := by
    intro read name other
    simp_all [shape, Parts.given, held, eq_comm]

/-- Fields that were not read have the value of the empty setup. -/
theorem finish_given {c : Setup} {read : List String}
    (phases : "phases" ∈ read ∨ c.phases = ({} : Setup).phases)
    (overrides : "overrides" ∈ read ∨ c.overrides = ({} : Setup).overrides)
    (python : "python" ∈ read ∨ c.python = ({} : Setup).python)
    (readies : "readies" ∈ read ∨ c.readies = ({} : Setup).readies)
    (aurHelper : "aur_helper" ∈ read ∨ c.aurHelper = ({} : Setup).aurHelper)
    (refresh : "refresh" ∈ read ∨ c.refresh = ({} : Setup).refresh)
    (continueOnError : "continue_on_error" ∈ read ∨ c.continueOnError = ({} : Setup).continueOnError)
    (timeoutSecs : "timeout_secs" ∈ read ∨ c.timeoutSecs = ({} : Setup).timeoutSecs) :
    (Parts.given c read).finish = c := by
  simp only [Parts.finish, Parts.given]
  rw [Json.getD_held _ phases, Json.getD_held _ overrides, Json.getD_held _ python,
    Json.getD_held _ readies, Json.getD_held _ aurHelper, Json.getD_held _ refresh,
    Json.getD_held _ continueOnError, Json.getD_held _ timeoutSecs]

/-- The members of a setup, with overrides and a limit only where there are any. -/
def members (c : Setup) : List (String × Option Json) :=
  [("phases", some (phasesJson c.phases)),
    ("overrides", if c.overrides.isEmpty then none else some (.list (c.overrides.map (·.toJson)))),
    ("python", some (.text c.python)),
    ("readies", some (.text c.readies)),
    ("aur_helper", some (.text c.aurHelper)),
    ("refresh", some (.bool c.refresh)),
    ("continue_on_error", some (.bool c.continueOnError)),
    ("timeout_secs", c.timeoutSecs.map fun secs => Json.natural secs.toNat)]

inductive Member (c : Setup) : String → Json → Prop
  | phases : Member c "phases" (phasesJson c.phases)
  | overrides : c.overrides ≠ [] → Member c "overrides" (.list (c.overrides.map (·.toJson)))
  | python : Member c "python" (.text c.python)
  | readies : Member c "readies" (.text c.readies)
  | aurHelper : Member c "aur_helper" (.text c.aurHelper)
  | refresh : Member c "refresh" (.bool c.refresh)
  | continueOnError : Member c "continue_on_error" (.bool c.continueOnError)
  | timeoutSecs {secs} : c.timeoutSecs = some secs → Member c "timeout_secs" (Json.natural secs.toNat)

theorem mem_members {c : Setup} {name : String} {value : Json} :
    (name, some value) ∈ c.members ↔ c.Member name value := by
  constructor
  · intro mem
    simp only [members, List.mem_cons, Prod.mk.injEq, List.not_mem_nil, or_false] at mem
    rcases mem with ⟨rfl, eq⟩ | ⟨rfl, eq⟩ | ⟨rfl, eq⟩ | ⟨rfl, eq⟩ | ⟨rfl, eq⟩ | ⟨rfl, eq⟩ | ⟨rfl, eq⟩ |
      ⟨rfl, eq⟩
    · exact Option.some.inj eq ▸ .phases
    · split at eq
      · contradiction
      · rename_i given
        exact Option.some.inj eq ▸ .overrides (by simpa using given)
    · exact Option.some.inj eq ▸ .python
    · exact Option.some.inj eq ▸ .readies
    · exact Option.some.inj eq ▸ .aurHelper
    · exact Option.some.inj eq ▸ .refresh
    · exact Option.some.inj eq ▸ .continueOnError
    · obtain ⟨secs, limited, rfl⟩ := Option.map_eq_some_iff.mp eq.symm
      exact .timeoutSecs limited
  · intro member
    cases member <;> simp_all [members]

theorem decode_limit (secs : UInt64) :
    (Draft.ofJson (Json.natural secs.toNat)).optional Draft.unsigned = .ok (some secs) :=
  congrArg (Except.ok <| some ·) UInt64.ofNat_toNat

end Setup
end HostSetup
