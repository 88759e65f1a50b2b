import HostSetup.Proofs.Action.Codec
import HostSetup.Proofs.Json.Spelling

/-!
Guards and actions as they may be written by hand: the type of a guard anywhere, options in any
order and more than once, and nothing or a null where there is no guard.
-/
namespace HostSetup
open Json (Draft Source Shape)

namespace Guard

/-- A guard written by hand: its type and its fields in any order, among other members. -/
def Spells (g : Guard) : Json → Prop :=
  Json.Spells ("type" :: g.tag.fields) (fun name value => (name, value) ∈ g.toJson.members)
    fun _ => False

theorem spells_toJson (g : Guard) : g.Spells g.toJson := by
  have distinct := List.nodup_cons.mpr ⟨type_not_mem_fields g.tag, nodup_fields g.tag⟩
  rw [Spells, toJson_eq]
  exact Json.spells_own (congrArg ("type" :: ·) (names_fieldsJson g)) distinct

theorem decode_spells {g : Guard} {j : Json} (spells : g.Spells j) :
    decode (Draft.ofJson j) = .ok g := by
  obtain ⟨distinct, fits, complete⟩ := spells
  rw [toJson_eq] at fits
  -- the type stands somewhere, and all other members stand before or after it
  have typed := (complete "type" List.mem_cons_self).resolve_right id
  obtain ⟨⟨_, value⟩, mem, rfl⟩ := List.mem_map.mp typed
  have value_eq : value = .text g.tag.name := by
    rcases List.mem_cons.mp (fits _ mem List.mem_cons_self) with same | field
    · exact (Prod.mk.inj same).2
    · exact absurd (names_fieldsJson g ▸ List.mem_map_of_mem field) (type_not_mem_fields g.tag)
  obtain ⟨before, after, rfl⟩ := List.append_of_mem mem
  have aside : (before ++ ("type", value) :: after).Perm (("type", value) :: (before ++ after)) :=
    List.perm_middle
  have apart : ("type" :: (before ++ after).map (·.1)).Nodup :=
    (aside.map Prod.fst).nodup_iff.mp distinct
  have other {name : String} (field : name ∈ g.tag.fields) : name ≠ "type" := fun same =>
    type_not_mem_fields g.tag (same ▸ field)
  subst value_eq
  refine decode_record g before after apart ?agrees ?complete
  case agrees =>
    intro m mem field
    have own := fits m (aside.mem_iff.mpr (List.mem_cons_of_mem _ mem)) (List.mem_cons_of_mem _ field)
    rcases List.mem_cons.mp own with same | own
    · exact absurd (congrArg (·.1) same) (other field)
    · exact agrees_fieldsJson g m own field
  case complete =>
    intro name field
    have named := (complete name (List.mem_cons_of_mem _ field)).resolve_right id
    rcases List.mem_cons.mp ((aside.map Prod.fst).mem_iff.mp named) with same | named
    · exact absurd same (other field)
    · exact named

theorem optional_spells {g : Guard} {j : Json} (spells : g.Spells j) :
    (Draft.ofJson j).optional decode = .ok (some g) := by
  have decoded := decode_spells spells
  obtain ⟨distinct, fits, complete⟩ := spells
  exact congrArg (some <$> ·) decoded

end Guard

namespace Action

/-- The members of an action as they may be written. Options are those of the action, in any order
and any number; where there is no guard stands a null. -/
inductive Written (a : Action) : String → Json → Prop
  | kind : Written a "kind" (.text a.kind.name)
  | payload : Written a "payload" a.payload.toJson
  | options {options : List ActionOption} : (∀ o, o ∈ options ↔ a.options.has o = true) →
    Written a "options" (Json.texts (options.map (·.name)))
  | guard {g j} : a.guard = some g → g.Spells j → Written a "guard" j
  | noGuard : a.guard = none → Written a "guard" .null

/-- What an action may be written without. -/
def Unset (a : Action) (name : String) : Prop :=
  name = "options" ∧ a.options = {} ∨ name = "guard" ∧ a.guard = none

def Spells (a : Action) : Json → Prop :=
  Json.Spells (shape .arriving).fields a.Written a.Unset

theorem spells_toJson (a : Action) : a.Spells a.toJson := by
  have distinct : (a.members.map (·.1)).Nodup := by simp [members]
  have given {name value} (member : a.Member name value) :
      name ∈ (Json.present a.members).map (·.1) :=
    List.mem_map_of_mem (Json.mem_present.mpr (mem_members.mpr member))
  refine .record (distinct.sublist (Json.names_present_sublist _)) ?fits ?complete
  case fits =>
    rintro ⟨name, value⟩ mem -
    cases mem_members.mp (Json.mem_present.mp mem) with
    | kind => exact .kind
    | payload => exact .payload
    | options => exact .options fun o => ActionOptions.mem_toList
    | guard guarded => exact .guard guarded (Guard.spells_toJson _)
  case complete =>
    simp only [shape, List.forall_mem_cons]
    refine ⟨.inl (given .kind), .inl (given .payload), ?_, ?_, List.forall_mem_nil _⟩
    · by_cases none : a.options.toList = []
      · exact .inr (.inl ⟨rfl, ActionOptions.toList_eq_nil none⟩)
      · exact .inl (given (.options none))
    · by_cases free : a.guard = none
      · exact .inr (.inr ⟨rfl, free⟩)
      · obtain ⟨g, guarded⟩ := Option.ne_none_iff_exists'.mp free
        exact .inl (given (.guard guarded))

theorem fits_of_written (source : Source) {a : Action} {name : String} {value : Json}
    (written : a.Written name value) : a.Fits source name (Draft.ofJson value) := by
  cases written with
  | kind => exact .kind (Draft.named_of_find? (ActionKind.ofName?_name a.kind))
  | payload => exact .payload (Payload.decode_toJson a.payload)
  | options same => exact .options (items_names source same)
  | guard guarded spells => exact .guard (guarded ▸ Guard.optional_spells spells)
  | noGuard free => exact .guard (free ▸ rfl)

theorem decode_spells (source : Source) {a : Action} {j : Json} (spells : a.Spells j) :
    decode source (Draft.ofJson j) = .ok a := by
  refine Shape.decode_spells (gathers source a) spells (fun _ => fits_of_written source) source ?_
  intro read all
  simp only [shape, List.forall_mem_cons, Unset] at all
  obtain ⟨kind, payload, options, guard, _⟩ := all
  exact finish_given (by simpa using kind) (by simpa using payload) (by simpa using options)
    (by simpa using guard)

end Action
end HostSetup
