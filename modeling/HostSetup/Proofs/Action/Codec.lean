import HostSetup.Action.Codec
import HostSetup.Proofs.Json.Decode

/-!
What actions, guards and payloads are decoded from, field by field.
-/
namespace HostSetup
open Json (Draft Source Shape held Legible)

theorem Json.Draft.named_of_find? {α : Type} {all : List α} {name : α → String} {s : String} {x : α}
    (found : all.find? (name · == s) = some x) : named (all.map fun y => (name y, y)) s = .ok x := by
  rw [named, List.find?_map]
  simp only [Function.comp_def, found, Option.map_some]

namespace Payload

theorem mapM_text? (items : List String) : (items.map Json.text).mapM Json.text? = some items := by
  induction items with
  | nil => rfl
  | cons item items ih =>
    rw [List.map_cons, List.mapM_cons, ih]
    rfl

theorem decode_toJson (p : Payload) : decode (Draft.ofJson p.toJson) = .ok p := by
  rw [decode, Draft.json_ofJson]
  cases p with
  | one s => rfl
  | many items =>
    have texts := mapM_text? items
    have lifted : Draft.lift (.ok (many items).toJson) = .ok (.list (items.map .text)) := rfl
    rw [lifted]
    simp only [bind, Except.bind, texts]
    rfl

theorem legible_toJson (p : Payload) : Legible 1 p.toJson := by
  cases p with
  | one s => exact Json.legible_text s
  | many items => exact Json.legible_texts items

end Payload

namespace Guard

/-- What is held of a guard when the fields in `read` were read. -/
def Parts.given (g : Guard) (read : List String) : Parts :=
  match g with
  | .distroIs distro | .distroIsNot distro => { distro := held read "distro" distro }
  | .releaseIs distro version | .releaseIsNot distro version =>
    { distro := held read "distro" distro, version := held read "version" version }
  | .familyIs family => { family := held read "family" family }

/-- What the fields of a guard are read from. -/
inductive Fits : Guard → String → Draft → Prop
  | distroIs {d distro} : d.string = .ok distro → Fits (.distroIs distro) "distro" d
  | distroIsNot {d distro} : d.string = .ok distro → Fits (.distroIsNot distro) "distro" d
  | releaseIs_distro {d distro version} :
    d.string = .ok distro → Fits (.releaseIs distro version) "distro" d
  | releaseIs_version {d distro version} :
    d.string = .ok version → Fits (.releaseIs distro version) "version" d
  | releaseIsNot_distro {d distro version} :
    d.string = .ok distro → Fits (.releaseIsNot distro version) "distro" d
  | releaseIsNot_version {d distro version} :
    d.string = .ok version → Fits (.releaseIsNot distro version) "version" d
  | familyIs {d family} : d.variant .aside Family.codec = .ok family → Fits (.familyIs family) "family" d

theorem gathers (g : Guard) : (shape g.tag).Gathers (Parts.given g) g.Fits where
  start := by cases g <;> rfl
  put := by
    intro read name d fresh fits
    cases fits <;> rename_i value <;>
      simp [shape, Parts.put, Parts.given, Json.once, held, fresh, value, Functor.map, Except.map]
  pass := by
    intro read name other
    cases g <;> simp_all [shape, tag, Tag.fields, Parts.given, held, eq_comm]

theorem finish_given {g : Guard} {read : List String} (complete : ∀ name ∈ g.tag.fields, name ∈ read) :
    (Parts.given g read).finish g.tag = .ok g := by
  cases g <;> simp_all [tag, Tag.fields, Parts.given, Parts.finish, held, Json.need] <;> rfl

/-- The members of a guard besides its type. -/
def fieldsJson : Guard → List (String × Json)
  | .distroIs distro | .distroIsNot distro => [("distro", .text distro)]
  | .releaseIs distro version | .releaseIsNot distro version =>
    [("distro", .text distro), ("version", .text version)]
  | .familyIs family => [("family", .text family.name)]

theorem toJson_eq (g : Guard) : g.toJson = .record (("type", .text g.tag.name) :: g.fieldsJson) := by
  cases g <;> rfl

theorem names_fieldsJson (g : Guard) : g.fieldsJson.map (·.1) = g.tag.fields := by cases g <;> rfl

theorem type_not_mem_fields (t : Tag) : "type" ∉ t.fields := by cases t <;> decide

theorem nodup_fields (t : Tag) : t.fields.Nodup := by cases t <;> decide

theorem agrees_fieldsJson (g : Guard) : (shape g.tag).Agrees g.Fits g.fieldsJson := by
  rintro m mem -
  cases g <;> simp only [fieldsJson, List.mem_cons, List.not_mem_nil, or_false] at mem
  case distroIs distro => exact mem ▸ .distroIs rfl
  case distroIsNot distro => exact mem ▸ .distroIsNot rfl
  case releaseIs distro version =>
    rcases mem with rfl | rfl
    · exact .releaseIs_distro rfl
    · exact .releaseIs_version rfl
  case releaseIsNot distro version =>
    rcases mem with rfl | rfl
    · exact .releaseIsNot_distro rfl
    · exact .releaseIsNot_version rfl
  case familyIs family =>
    have found := Family.ofName?_name family
    exact mem ▸ .familyIs (Draft.named_of_find? found)

/-- Members that do not name the type are put aside. -/
theorem splitMembers_untagged (tag : Option Tag) {members : List (String × Json)}
    (untagged : "type" ∉ members.map (·.1)) (others : List (String × Json))
    (rest : List (Draft × Draft)) :
    splitMembers tag others (Draft.ofMembers members ++ rest) =
      splitMembers tag (members.reverse ++ others) rest := by
  induction members generalizing others with
  | nil => rfl
  | cons member members ih =>
    have other : ¬member.1 = "type" := fun same => untagged (same ▸ List.mem_cons_self)
    have read := ih (fun mem => untagged (List.mem_cons_of_mem _ mem)) (member :: others)
    have key : Draft.lift (Draft.text member.1).key = .ok member.1 := rfl
    rw [List.reverse_cons, List.append_assoc, List.singleton_append, ← read, Draft.ofMembers,
      List.cons_append, splitMembers, key, Draft.json_ofJson]
    exact if_neg other

theorem decodeTag_name (t : Tag) : decodeTag (.text t.name) = .ok t := by cases t <;> rfl

/-- The type may stand anywhere. -/
theorem splitMembers_tagged (t : Tag) (before after : List (String × Json))
    (untagged : "type" ∉ (before ++ after).map (·.1)) :
    splitMembers none [] (Draft.ofMembers (before ++ ("type", .text t.name) :: after)) =
      .ok (some t, before ++ after) := by
  rw [List.map_append, List.mem_append, not_or] at untagged
  have rest := splitMembers_untagged (some t) untagged.2 before.reverse []
  rw [List.append_nil, splitMembers, List.reverse_append, List.reverse_reverse, List.reverse_reverse]
    at rest
  have key : Draft.lift (Draft.text "type").key = .ok "type" := rfl
  rw [Draft.ofMembers_append, splitMembers_untagged none untagged.1, List.append_nil, Draft.ofMembers,
    splitMembers, key, Draft.ofJson, decodeTag_name]
  exact rest

/-- A record with the type of a guard, whose other members agree with the guard and leave out none
of its fields, is decoded to it. -/
theorem decode_record (g : Guard) (before after : List (String × Json))
    (distinct : ("type" :: (before ++ after).map (·.1)).Nodup)
    (agrees : (shape g.tag).Agrees g.Fits (before ++ after))
    (complete : ∀ name ∈ g.tag.fields, name ∈ (before ++ after).map (·.1)) :
    decode (Draft.ofJson (.record (before ++ ("type", .text g.tag.name) :: after))) = .ok g := by
  obtain ⟨untagged, distinct⟩ := List.nodup_cons.mp distinct
  have fields : (shape g.tag).decode .aside (Draft.ofJson (.record (before ++ after))) = .ok g := by
    refine Shape.decode_record (gathers g) agrees distinct .aside fun read all => ?_
    refine finish_given fun name field => ?_
    obtain ⟨m, mem, rfl⟩ := List.mem_map.mp (complete name field)
    exact all m mem
  rw [Draft.ofJson, decode, splitMembers_tagged g.tag before after untagged]
  exact fields

theorem legible_toJson (g : Guard) : Legible 1 g.toJson := by
  cases g with
  | distroIs distro | distroIsNot distro =>
    exact Json.legible_textRecord [("type", _), ("distro", distro)]
  | releaseIs distro version | releaseIsNot distro version =>
    exact Json.legible_textRecord [("type", _), ("distro", distro), ("version", version)]
  | familyIs family => exact Json.legible_textRecord [("type", _), ("family", family.name)]

end Guard

namespace ActionOptions

theorem ext_has {os others : ActionOptions} (same : ∀ o, os.has o = others.has o) : os = others := by
  obtain ⟨fromAur, allowNoop⟩ := os
  have first := same .fromAur
  have second := same .allowNoop
  simp only [has] at first second
  rw [first, second]

theorem has_foldl_insert (os : ActionOptions) (options : List ActionOption) (o : ActionOption) :
    (options.foldl (fun os o => os.insert o) os).has o = (decide (o ∈ options) || os.has o) := by
  induction options generalizing os with
  | nil => simp
  | cons head rest ih =>
    rw [List.foldl_cons, ih, has_insert]
    by_cases same : o = head <;> by_cases later : o ∈ rest <;> simp [same, later]

/-- A set of options is made up of all that it has, in any order and any number. -/
theorem ofList_eq {os : ActionOptions} {options : List ActionOption}
    (same : ∀ o, o ∈ options ↔ os.has o = true) : ofList options = os := by
  refine ext_has fun o => ?_
  have none : ({} : ActionOptions).has o = false := by cases o <;> rfl
  rw [ofList, has_foldl_insert, none, Bool.or_false, Bool.eq_iff_iff, decide_eq_true_iff]
  exact same o

theorem mem_toList {os : ActionOptions} {o : ActionOption} : o ∈ os.toList ↔ os.has o = true := by
  cases o <;> simp [toList, ActionOption.all]

theorem toList_eq_nil {os : ActionOptions} (none : os.toList = []) : os = {} := by
  rw [← ofList_toList os, none]
  rfl

end ActionOptions

namespace Action

def Parts.given (a : Action) (read : List String) : Parts where
  kind := held read "kind" a.kind
  payload := held read "payload" a.payload
  options := held read "options" a.options
  guard := held read "guard" a.guard

inductive Fits (source : Source) (a : Action) : String → Draft → Prop
  | kind {d} : d.variant source ActionKind.codec = .ok a.kind → Fits source a "kind" d
  | payload {d} : Payload.decode d = .ok a.payload → Fits source a "payload" d
  | options {d} :
    ActionOptions.ofList <$> d.items (·.variant source ActionOption.codec) = .ok a.options →
    Fits source a "options" d
  | guard {d} : d.optional Guard.decode = .ok a.guard → Fits source a "guard" d

theorem gathers (source : Source) (a : Action) :
    (shape source).Gathers (Parts.given a) (a.Fits source) where
  start := rfl
  put := by
    intro read name d fresh fits
    cases fits <;> rename_i value <;>
      simp [shape, Parts.put, Parts.given, Json.once, held, fresh, value]
  pass := by
    intro read name other
    simp_all [shape, Parts.given, held, eq_comm]

theorem finish_given {a : Action} {read : List String} (kind : "kind" ∈ read)
    (payload : "payload" ∈ read) (options : "options" ∈ read ∨ a.options = {})
    (guard : "guard" ∈ read ∨ a.guard = none) :
    (Parts.given a read).finish = .ok a := by
  rw [Parts.finish, Parts.given, Json.held_of_mem _ kind, Json.held_of_mem _ payload,
    Json.getD_held _ options, Json.getD_held _ guard]
  rfl

/-- The options of an action may be named in any order and any number. -/
theorem items_names (source : Source) {os : ActionOptions} {options : List ActionOption}
    (same : ∀ o, o ∈ options ↔ os.has o = true) :
    ActionOptions.ofList <$> (Draft.ofJson (Json.texts (options.map (·.name)))).items
      (·.variant source ActionOption.codec) = .ok os := by
  have each : ∀ o ∈ options,
      (Draft.ofJson (.text o.name)).variant source ActionOption.codec = .ok o :=
    fun o _ => Draft.named_of_find? (ActionOption.ofName?_name o)
  have items := Draft.items_list each
  rw [Json.texts, List.map_map]
  exact (congrArg (ActionOptions.ofList <$> ·) items).trans
    (congrArg Except.ok (ActionOptions.ofList_eq same))

/-- The members of an action, with the options and the guard only where there are any. -/
def members (a : Action) : List (String × Option Json) :=
  [("kind", some (.text a.kind.name)),
    ("payload", some a.payload.toJson),
    ("options", if a.options.toList.isEmpty then none
      else some (Json.texts (a.options.toList.map (·.name)))),
    ("guard", a.guard.map (·.toJson))]

inductive Member (a : Action) : String → Json → Prop
  | kind : Member a "kind" (.text a.kind.name)
  | payload : Member a "payload" a.payload.toJson
  | options : a.options.toList ≠ [] → Member a "options" (Json.texts (a.options.toList.map (·.name)))
  | guard {g} : a.guard = some g → Member a "guard" g.toJson

theorem mem_members {a : Action} {name : String} {value : Json} :
    (name, some value) ∈ a.members ↔ a.Member name value := by
  constructor
  · intro mem
    simp only [members, List.mem_cons, Prod.mk.injEq, List.not_mem_nil, or_false] at mem
    rcases mem with ⟨rfl, eq⟩ | ⟨rfl, eq⟩ | ⟨rfl, eq⟩ | ⟨rfl, eq⟩
    · exact Option.some.inj eq ▸ .kind
    · exact Option.some.inj eq ▸ .payload
    · split at eq
      · contradiction
      · rename_i given
        exact Option.some.inj eq ▸ .options (by simpa using given)
    · obtain ⟨g, guarded, rfl⟩ := Option.map_eq_some_iff.mp eq.symm
      exact .guard guarded
  · intro member
    cases member <;> simp_all [members]

theorem legible_toJson (a : Action) : Legible 2 a.toJson := by
  refine Json.legible_recordOf fun name value (mem : (name, some value) ∈ a.members) => ?_
  cases mem_members.mp mem with
  | kind => exact Json.legible_text _
  | payload => exact a.payload.legible_toJson
  | options => exact Json.legible_texts _
  | guard guarded => exact Guard.legible_toJson _

end Action
end HostSetup
