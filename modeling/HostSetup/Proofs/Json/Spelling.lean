import HostSetup.Proofs.Json.Decode
import Mathlib.Data.List.Forall2

/-!
Values written by hand: records with their fields in any order, some of them left out, and with
members of other names among them; and texts that are such values.
-/
namespace HostSetup

namespace NameMap

variable {α : Type}

/-- A new entry stands with the others, wherever its name belongs. -/
theorem put_perm {name : String} (value : α) {entries : List (String × α)}
    (fresh : name ∉ entries.map (·.1)) : (put name value entries).Perm ((name, value) :: entries) := by
  induction entries with
  | nil => exact .refl _
  | cons head rest ih =>
    rw [List.map_cons, List.mem_cons, not_or] at fresh
    rw [put, if_neg fresh.1]
    split
    · exact .refl _
    · exact ((ih fresh.2).cons head).trans (.swap _ _ _)

theorem foldl_insert_perm {entries : List (String × α)} (m : NameMap α)
    (distinct : ((m.entries ++ entries).map (·.1)).Nodup) :
    (entries.foldl (fun m entry => m.insert entry.1 entry.2) m).entries.Perm (m.entries ++ entries) := by
  -- no name comes twice, so that every insertion is one of a new name
  induction entries generalizing m with
  | nil => rw [List.append_nil]; exact .refl _
  | cons head rest ih =>
    have ahead : (m.entries ++ head :: rest).Perm (head :: m.entries ++ rest) := List.perm_middle
    have fresh : head.1 ∉ m.entries.map (·.1) := by
      intro mem
      have distinct := (ahead.map (·.1)).nodup_iff.mp distinct
      simp_all
    have placed : (m.insert head.1 head.2).entries.Perm (head :: m.entries) := put_perm head.2 fresh
    have moved := (placed.append_right rest).trans ahead.symm
    exact (ih _ ((moved.map (·.1)).nodup_iff.mpr distinct)).trans moved

/-- The entries of a map make up this map, in whatever order they come. -/
theorem ofList_of_perm {entries : List (String × α)} {m : NameMap α}
    (perm : entries.Perm m.entries) : ofList entries = m := by
  have distinct : (entries.map (·.1)).Nodup := by
    refine (perm.map (·.1)).nodup_iff.mpr (List.pairwise_map.mpr (m.ascending.imp ?_))
    intro entry other lower same
    exact String.lt_irrefl _ (same ▸ lower)
  have made : (ofList entries).entries.Perm entries := foldl_insert_perm empty distinct
  -- only one order of the same entries is ascending
  have same : (ofList entries).entries = m.entries := by
    refine (made.trans perm).eq_of_pairwise ?_ (ofList entries).ascending m.ascending
    intro _ _ _ _ lower higher
    exact absurd higher (String.lt_asymm lower)
  cases m
  cases h : ofList entries
  simp_all

end NameMap

namespace Json

def members : Json → List (String × Json)
  | .record members => members
  | _ => []

/-- A record whose members of the known names are `written`, in any order. Of these names it may
lack those that are `unset`; its other members are arbitrary. No name stands twice. -/
inductive Spells (known : List String) (written : String → Json → Prop) (unset : String → Prop) :
    Json → Prop
  | record {members : List (String × Json)} (distinct : (members.map (·.1)).Nodup)
    (fits : ∀ m ∈ members, m.1 ∈ known → written m.1 m.2)
    (complete : ∀ name ∈ known, name ∈ members.map (·.1) ∨ unset name) :
    Spells known written unset (.record members)

theorem spells_own {known : List String} {members : List (String × Json)} {unset : String → Prop}
    (named : members.map (·.1) = known) (distinct : known.Nodup) :
    Spells known (fun name value => (name, value) ∈ members) unset (.record members) :=
  .record (named ▸ distinct) (fun _ mem _ => mem) fun _ field => .inl (named ▸ field)

section

variable {α : Type} (spells : α → Json → Prop)

/-- A list whose items are spelled one by one. -/
inductive SpellsList (xs : List α) : Json → Prop
  | list {items : List Json} (each : List.Forall₂ spells xs items) : SpellsList xs (.list items)

/-- A record with the entries of a map, in any order. -/
inductive SpellsMap (m : NameMap α) : Json → Prop
  | record {entries : List (String × α)} {members : List (String × Json)}
    (perm : entries.Perm m.entries)
    (each : List.Forall₂ (fun entry m => m.1 = entry.1 ∧ spells entry.2 m.2) entries members) :
    SpellsMap m (.record members)

variable {spells} (encode : α → Json) (each : ∀ x, spells x (encode x))
include each

theorem SpellsList.own {xs : List α} : SpellsList spells xs (.list (xs.map encode)) :=
  .list (List.forall₂_map_right_iff.mpr (List.forall₂_same.mpr fun x _ => each x))

theorem SpellsMap.own {m : NameMap α} :
    SpellsMap spells m (.record (m.entries.map fun entry => (entry.1, encode entry.2))) :=
  .record (.refl _) (List.forall₂_map_right_iff.mpr (List.forall₂_same.mpr fun _ _ => ⟨rfl, each _⟩))

end

theorem Shape.decode_spells {σ α : Type} {shape : Shape σ α} {given : List String → σ}
    {fits : String → Draft → Prop} (gathers : shape.Gathers given fits)
    {written : String → Json → Prop} {unset : String → Prop} {j : Json}
    (spells : Spells shape.fields written unset j)
    (agrees : ∀ {name value}, name ∈ shape.fields → written name value →
      fits name (Draft.ofJson value))
    {value : α} (source : Source)
    (finish : ∀ read : List String, (∀ name ∈ shape.fields, name ∈ read ∨ unset name) →
      shape.finish (given read) = .ok value) :
    shape.decode source (Draft.ofJson j) = .ok value := by
  obtain ⟨distinct, written, complete⟩ := spells
  have agreed : shape.Agrees fits _ := fun m mem field => agrees field (written m mem field)
  refine decode_record gathers agreed distinct source fun read all => ?_
  refine finish read fun name field => (complete name field).imp_left fun named => ?_
  obtain ⟨m, mem, rfl⟩ := List.mem_map.mp named
  exact all m mem

theorem bind_eq_ok {ε α β : Type} {x : Except ε α} {f : α → Except ε β} {b : β} :
    (x >>= f) = .ok b ↔ ∃ a, x = .ok a ∧ f a = .ok b := by
  cases x <;> simp [bind, Except.bind]

theorem Fault.eq_none {close : Option Fault} {u : Unit} (closed : check close = .ok u) :
    close = none := by
  cases close with
  | none => rfl
  | some fault => simp [check] at closed

namespace Draft

variable {α : Type} {spells : α → Json → Prop} {value : Draft → Except Problem α} {j : Json}

theorem mapM_of_forall₂ {xs : List α} {items : List Json} (spelled : List.Forall₂ spells xs items)
    (each : ∀ {x j}, spells x j → value (ofJson j) = .ok x) : (ofItems items).mapM value = .ok xs := by
  induction spelled with
  | nil => rfl
  | cons first _ ih =>
    rw [ofItems, List.mapM_cons, each first, ih]
    rfl

theorem items_of_spells {xs : List α} (spelled : SpellsList spells xs j)
    (each : ∀ {x j}, spells x j → value (ofJson j) = .ok x) : (ofJson j).items value = .ok xs := by
  obtain ⟨spelled⟩ := spelled
  rw [ofJson, Draft.items, mapM_of_forall₂ spelled each]
  rfl

theorem addEntries_of_forall₂ {entries : List (String × α)} {members : List (String × Json)}
    (held : NameMap α)
    (spelled : List.Forall₂ (fun entry m => m.1 = entry.1 ∧ spells entry.2 m.2) entries members)
    (each : ∀ {x j}, spells x j → value (ofJson j) = .ok x) :
    addEntries value held (ofMembers members) =
      .ok (entries.foldl (fun m entry => m.insert entry.1 entry.2) held) := by
  induction spelled generalizing held with
  | nil => rfl
  | @cons entry m entries members first _ ih =>
    obtain ⟨named, first⟩ := first
    rw [ofMembers, addEntries, each first, named]
    exact ih _

theorem entries_of_spells {m : NameMap α} (spelled : SpellsMap spells m j)
    (each : ∀ {x j}, spells x j → value (ofJson j) = .ok x) : (ofJson j).entries value = .ok m := by
  obtain ⟨perm, spelled⟩ := spelled
  rw [ofJson, Draft.entries, addEntries_of_forall₂ .empty spelled each]
  exact congrArg Except.ok (NameMap.ofList_of_perm perm)

theorem eq_text {d : Draft} {name : String} (named : d.key = .ok name) : d = .text name := by
  cases d <;> simp_all [key]

mutual

/-- What can be read whole is a value and nothing else. -/
theorem eq_ofJson {d : Draft} {j : Json} (read : json d = .ok j) : d = ofJson j := by
  match d with
  | .null | .bool _ | .number _ | .text _ => exact Except.ok.inj read ▸ rfl
  | .list items close =>
    simp only [json, bind_eq_ok] at read
    obtain ⟨values, inner, _, closed, done⟩ := read
    rw [eq_ofItems inner, Fault.eq_none closed, ← Except.ok.inj done, ofJson]
  | .record members close =>
    simp only [json, bind_eq_ok] at read
    obtain ⟨values, inner, _, closed, done⟩ := read
    rw [eq_ofMembers inner, Fault.eq_none closed, ← Except.ok.inj done, ofJson]
  | .broken _ | .unreadable _ _ | .misplaced _ => simp [json] at read

theorem eq_ofItems {drafts : List Draft} {items : List Json} (read : jsonItems drafts = .ok items) :
    drafts = ofItems items := by
  match drafts with
  | [] => exact Except.ok.inj read ▸ rfl
  | draft :: drafts =>
    simp only [jsonItems, bind_eq_ok] at read
    obtain ⟨value, first, values, others, done⟩ := read
    rw [eq_ofJson first, eq_ofItems others, ← Except.ok.inj done, ofItems]

theorem eq_ofMembers {drafts : List (Draft × Draft)} {members : List (String × Json)}
    (read : jsonMembers drafts = .ok members) : drafts = ofMembers members := by
  match drafts with
  | [] => exact Except.ok.inj read ▸ rfl
  | (key, draft) :: drafts =>
    simp only [jsonMembers, bind_eq_ok] at read
    obtain ⟨name, named, value, first, values, others, done⟩ := read
    rw [eq_text named, eq_ofJson first, eq_ofMembers others, ← Except.ok.inj done, ofMembers]

end

end Draft

/-- A text is decoded as the value that it is. -/
theorem decodeText_of_parse? {α : Type} (value : Draft → Except Problem α) {text : String} {j : Json}
    (parsed : parse? text = some j) : decodeText value text = value (Draft.ofJson j) := by
  simp only [parse?] at parsed
  cases read : (Document.read text).root.json with
  | error fault => simp [read] at parsed
  | ok whole =>
    obtain ⟨ended, rfl⟩ : (Document.read text).trailing = false ∧ whole = j := by
      simpa [read] using parsed
    simp only [decodeText, Draft.eq_ofJson read, ended]
    exact bind_pure (value (Draft.ofJson whole))

end Json
end HostSetup
