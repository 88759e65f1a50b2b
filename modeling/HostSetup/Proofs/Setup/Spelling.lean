import HostSetup.Proofs.Action.Spelling
import HostSetup.Proofs.Setup.Codec

/-!
Setup files written by hand. Members may stand in any order and among others of unknown names, and
what a new setup has anyway need not be written. All spellings of a setup are read as this setup.
-/
namespace HostSetup
open Json (Draft Source Shape)

namespace PackageOverride

def Spells (o : PackageOverride) : Json → Prop :=
  Json.Spells shape.fields (fun name value => (name, value) ∈ o.toJson.members) fun _ => False

theorem spells_toJson (o : PackageOverride) : o.Spells o.toJson :=
  Json.spells_own rfl (by simp [shape])

theorem decode_spells (source : Source) {o : PackageOverride} {j : Json} (spells : o.Spells j) :
    decode source (Draft.ofJson j) = .ok o := by
  refine Shape.decode_spells (gathers o) spells (fun field own => ?_) source fun read all => ?_
  · exact agrees_members o _ own field
  · exact finish_given fun name field => (all name field).resolve_right id

end PackageOverride

namespace Setup

/-- The members of a setup as they may be written: phases in any order, and a null where there is
no limit. -/
inductive Written (c : Setup) : String → Json → Prop
  | phases {j} : Json.SpellsMap (Json.SpellsList Action.Spells) c.phases j → Written c "phases" j
  | overrides {j} : Json.SpellsList PackageOverride.Spells c.overrides j → Written c "overrides" j
  | python : Written c "python" (.text c.python)
  | readies : Written c "readies" (.text c.readies)
  | aurHelper : Written c "aur_helper" (.text c.aurHelper)
  | refresh : Written c "refresh" (.bool c.refresh)
  | continueOnError : Written c "continue_on_error" (.bool c.continueOnError)
  | timeoutSecs {secs} : c.timeoutSecs = some secs →
    Written c "timeout_secs" (Json.natural secs.toNat)
  | noTimeout : c.timeoutSecs = none → Written c "timeout_secs" .null

/-- What a setup may be written without: what it has in common with a new one. -/
def Unset (c : Setup) (name : String) : Prop :=
  let new : Setup := {}
  name = "phases" ∧ c.phases = new.phases ∨ name = "overrides" ∧ c.overrides = new.overrides ∨
    name = "python" ∧ c.python = new.python ∨ name = "readies" ∧ c.readies = new.readies ∨
    name = "aur_helper" ∧ c.aurHelper = new.aurHelper ∨ name = "refresh" ∧ c.refresh = new.refresh ∨
    name = "continue_on_error" ∧ c.continueOnError = new.continueOnError ∨
    name = "timeout_secs" ∧ c.timeoutSecs = new.timeoutSecs

def Spells (c : Setup) : Json → Prop := Json.Spells (shape .arriving).fields c.Written c.Unset

theorem spells_toJson (c : Setup) : c.Spells c.toJson := by
  have distinct : (c.members.map (·.1)).Nodup := by simp [members]
  have given {name value} (member : c.Member name value) :
      name ∈ (Json.present c.members).map (·.1) :=
    List.mem_map_of_mem (Json.mem_present.mpr (mem_members.mpr member))
  refine .record (distinct.sublist (Json.names_present_sublist _)) ?fits ?complete
  case fits =>
    rintro ⟨name, value⟩ mem -
    cases mem_members.mp (Json.mem_present.mp mem) with
    | phases =>
      have spelled (actions : List Action) :
          Json.SpellsList Action.Spells actions (.list (actions.map Action.toJson)) :=
        .own Action.toJson Action.spells_toJson
      exact .phases (.own (fun actions : List Action => .list (actions.map Action.toJson)) spelled)
    | overrides => exact .overrides (.own PackageOverride.toJson PackageOverride.spells_toJson)
    | python => exact .python
    | readies => exact .readies
    | aurHelper => exact .aurHelper
    | refresh => exact .refresh
    | continueOnError => exact .continueOnError
    | timeoutSecs limited => exact .timeoutSecs limited
  case complete =>
    simp only [shape, List.forall_mem_cons]
    refine ⟨.inl (given .phases), ?_, .inl (given .python), .inl (given .readies),
      .inl (given .aurHelper), .inl (given .refresh), .inl (given .continueOnError), ?_,
      List.forall_mem_nil _⟩
    · by_cases none : c.overrides = []
      · exact .inr (by simp [Unset, none])
      · exact .inl (given (.overrides none))
    · by_cases free : c.timeoutSecs = none
      · exact .inr (by simp [Unset, free])
      · obtain ⟨secs, limited⟩ := Option.ne_none_iff_exists'.mp free
        exact .inl (given (.timeoutSecs limited))

theorem fits_of_written (source : Source) {c : Setup} {name : String} {value : Json}
    (written : c.Written name value) : c.Fits source name (Draft.ofJson value) := by
  cases written with
  | phases spelled =>
    refine .phases (Draft.entries_of_spells spelled fun spelled => ?_)
    exact Draft.items_of_spells spelled (Action.decode_spells source)
  | overrides spelled =>
    exact .overrides (Draft.items_of_spells spelled (PackageOverride.decode_spells source))
  | python => exact .python rfl
  | readies => exact .readies rfl
  | aurHelper => exact .aurHelper rfl
  | refresh => exact .refresh rfl
  | continueOnError => exact .continueOnError rfl
  | timeoutSecs limited => exact .timeoutSecs (limited ▸ decode_limit _)
  | noTimeout free => exact .timeoutSecs (free ▸ rfl)

theorem decode_spells (source : Source) {c : Setup} {j : Json} (spells : c.Spells j) :
    decode source (Draft.ofJson j) = .ok c := by
  refine Shape.decode_spells (gathers source c) spells (fun _ => fits_of_written source) source ?_
  intro read all
  simp only [shape, List.forall_mem_cons] at all
  obtain ⟨phases, overrides, python, readies, aurHelper, refresh, continueOnError, timeoutSecs, _⟩ := all
  refine congrArg Except.ok (finish_given ?_ ?_ ?_ ?_ ?_ ?_ ?_ ?_)
  · simpa [Unset] using phases
  · simpa [Unset] using overrides
  · simpa [Unset] using python
  · simpa [Unset] using readies
  · simpa [Unset] using aurHelper
  · simpa [Unset] using refresh
  · simpa [Unset] using continueOnError
  · simpa [Unset] using timeoutSecs

/-- However a setup is spelled, it is read as this setup: as a value, wherever it comes from, and as
a text that is such a value. -/
theorem spellings_agree (c : Setup) (j : Json) (spells : c.Spells j) :
    (∀ source, decode source (Draft.ofJson j) = .ok c) ∧
      ∀ text, Json.parse? text = some j → parse text = .ok c := by
  refine ⟨fun source => decode_spells source spells, fun text parsed => ?_⟩
  rw [parse, Json.decodeText_of_parse? _ parsed]
  exact decode_spells .arriving spells

/-- Two phases in the wrong order, members in any, remarks of the author, an option given twice and
nulls and empty lists for what is not there. -/
theorem spellings_agree_by_hand :
    let guard : Guard := .releaseIs "ubuntu" "22.04"
    let query : Action := ((Action.install (.one "jq")).withOption .fromAur).when guard
    let build : Action := .run (.many ["make"])
    let c : Setup := { phases := .ofList [("common-first", [query]), ("debian-compat", [build])] }
    let guardJson : Json := .record [("version", .text "22.04"), ("family", .null),
      ("type", .text "release-is"), ("distro", .text "ubuntu")]
    let queryJson : Json := .record [("guard", guardJson),
      ("options", Json.texts ["from-aur", "from-aur"]), ("why", .text "to read answers"),
      ("payload", .text "jq"), ("kind", .text "install")]
    let buildJson : Json := .record [("payload", Json.texts ["make"]), ("guard", .null),
      ("options", .list []), ("kind", .text "run")]
    let j : Json := .record [("timeout_secs", .null), ("note", .list [.null]),
      ("phases", .record [("debian-compat", .list [buildJson]), ("common-first", .list [queryJson])]),
      ("overrides", .list [])]
    c.Spells j ∧ decode .arriving (Draft.ofJson j) = .ok c := by
  intro guard query build c guardJson queryJson buildJson j
  have guarded : guard.Spells guardJson := by
    refine .record (by decide) ?_ ?_
    · simp [guard, Guard.tag, Guard.Tag.fields, Guard.toJson, Json.members, Guard.Tag.name]
    · simp [guard, Guard.tag, Guard.Tag.fields]
  have repeated : ∀ o, o ∈ [ActionOption.fromAur, .fromAur] ↔ query.options.has o = true := by
    intro o
    cases o <;> decide
  have queried : query.Spells queryJson := by
    refine .record (by decide) ?_ (by simp [Action.shape])
    simp only [List.forall_mem_cons]
    exact ⟨fun _ => .guard rfl guarded, fun _ => .options repeated,
      fun known => absurd known (by decide), fun _ => .payload, fun _ => .kind, List.forall_mem_nil _⟩
  have none : ∀ o, o ∈ ([] : List ActionOption) ↔ build.options.has o = true := by
    intro o
    cases o <;> decide
  have built : build.Spells buildJson := by
    refine .record (by decide) ?_ (by simp [Action.shape])
    simp only [List.forall_mem_cons]
    exact ⟨fun _ => .payload, fun _ => .noGuard rfl, fun _ => .options none, fun _ => .kind,
      List.forall_mem_nil _⟩
  have entries :
      [("debian-compat", [build]), ("common-first", [query])].Perm c.phases.entries := by decide
  have spelled : c.Spells j := by
    refine .record (by decide) ?_ (by simp [shape, Unset, c])
    simp only [List.forall_mem_cons]
    refine ⟨fun _ => .noTimeout rfl, fun known => absurd known (by decide),
      fun _ => .phases (.record entries ?_), fun _ => .overrides (.list .nil),
      List.forall_mem_nil _⟩
    exact .cons ⟨rfl, .list (.cons built .nil)⟩ (.cons ⟨rfl, .list (.cons queried .nil)⟩ .nil)
  exact ⟨spelled, (spellings_agree c j spelled).1 .arriving⟩

end Setup
end HostSetup
