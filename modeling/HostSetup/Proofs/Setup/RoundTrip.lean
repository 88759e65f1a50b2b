import HostSetup.Proofs.Setup.Spelling
import HostSetup.Setup.File

/-!
Setups are read back from what was written of them, line by line or compact: names and payloads of
any characters, options, guards and overrides, and limits of up to 64 bits.
-/
namespace HostSetup
open Json (Draft Source Legible)

theorem PackageOverride.legible_toJson (o : PackageOverride) : Legible 1 o.toJson :=
  Json.legible_textRecord [("distro", o.distro), ("version", o.version), ("package", o.package),
    ("replacement", o.replacement)]

namespace Setup

theorem legible_phasesJson (phases : NameMap (List Action)) : Legible 4 (phasesJson phases) := by
  refine Json.legible_record fun m mem => ?_
  obtain ⟨⟨name, actions⟩, _, rfl⟩ := List.mem_map.mp mem
  refine Json.legible_list fun item mem => ?_
  obtain ⟨a, _, rfl⟩ := List.mem_map.mp mem
  exact a.legible_toJson

theorem legible_overrides (os : List PackageOverride) : Legible 2 (.list (os.map (·.toJson))) := by
  refine Json.legible_list fun item mem => ?_
  obtain ⟨o, _, rfl⟩ := List.mem_map.mp mem
  exact o.legible_toJson

theorem legible_toJson (c : Setup) : Legible Json.Document.depthLimit c.toJson := by
  have inner : Legible 5 c.toJson := by
    refine Json.legible_recordOf fun name value (mem : (name, some value) ∈ c.members) => ?_
    cases mem_members.mp mem with
    | phases => exact legible_phasesJson c.phases
    | overrides => exact (legible_overrides c.overrides).mono (by decide)
    | python | readies | aurHelper => exact Json.legible_text _
    | refresh | continueOnError => exact Json.legible_bool _
    | timeoutSecs => exact Json.legible_natural (UInt64.toNat_lt_size _)
  exact inner.mono (by decide)

theorem decode_toJson (source : Source) (c : Setup) :
    decode source (Draft.ofJson c.toJson) = .ok c := decode_spells source c.spells_toJson

theorem ofFile_fileText (path : String) (c : Setup) : ofFile path (.ok c.fileText) = .ok c := by
  rw [ofFile, parse, fileText, Json.decodeText_pretty _ c.legible_toJson, decode_toJson]
  rfl

/-- What is written of a setup is read back as this setup: the lines of a setup file, by the parser
and as a file, and the compact text. -/
theorem parse_written (c : Setup) :
    parse c.fileText = .ok c ∧ (∀ path : String, ofFile path (.ok c.fileText) = .ok c) ∧
      parse c.toJson.compact = .ok c := by
  have decoded := decode_toJson .arriving c
  have pretty : parse c.fileText = .ok c := by
    rw [parse, fileText, Json.decodeText_pretty _ c.legible_toJson, decoded]
  refine ⟨pretty, ?_, ?_⟩
  · intro path
    rw [ofFile, pretty]
    rfl
  · rw [parse, Json.decodeText_compact _ c.legible_toJson, decoded]

end Setup
end HostSetup
