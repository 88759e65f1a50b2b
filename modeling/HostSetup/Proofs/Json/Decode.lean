import Mathlib.Control.Monad.Basic
import HostSetup.Json.Decode
import HostSetup.Proofs.Json.Reading

/-!
Decoding values that were encoded. Lists are decoded item by item, and a record whose fields come
one after the other, in any order and among members with other names, ends with what its fields
hold.
-/
namespace HostSetup.Json

namespace Draft

variable {α β : Type}

mutual

theorem skip_ofJson (j : Json) : skip (ofJson j) = .ok () := by
  match j with
  | .null | .bool _ | .number _ | .text _ => rfl
  | .list items => exact congrArg (· >>= fun _ => Fault.check none) (skipItems_ofItems items)
  | .record members => exact congrArg (· >>= fun _ => Fault.check none) (skipMembers_ofMembers members)

theorem skipItems_ofItems (items : List Json) : skipItems (ofItems items) = .ok () := by
  match items with
  | [] => rfl
  | item :: rest =>
    rw [ofItems, skipItems, skip_ofJson item]
    exact skipItems_ofItems rest

theorem skipMembers_ofMembers (members : List (String × Json)) :
    skipMembers (ofMembers members) = .ok () := by
  match members with
  | [] => rfl
  | (name, value) :: rest =>
    rw [ofMembers, skipMembers, skip_ofJson value]
    exact skipMembers_ofMembers rest

end

theorem ofMembers_append (members others : List (String × Json)) :
    ofMembers (members ++ others) = ofMembers members ++ ofMembers others := by
  induction members with
  | nil => rfl
  | cons member members ih => rw [List.cons_append, ofMembers, ih, ofMembers, List.cons_append]

theorem mapM_ofItems {item : Draft → Except Problem α} {encode : α → Json} {xs : List α}
    (each : ∀ x ∈ xs, item (ofJson (encode x)) = .ok x) :
    (ofItems (xs.map encode)).mapM item = .ok xs := by
  induction xs with
  | nil => rfl
  | cons x xs ih =>
    rw [List.map_cons, ofItems, List.mapM_cons, each x List.mem_cons_self,
      ih fun y mem => each y (List.mem_cons_of_mem _ mem)]
    rfl

theorem items_list {item : Draft → Except Problem α} {encode : α → Json} {xs : List α}
    (each : ∀ x ∈ xs, item (ofJson (encode x)) = .ok x) :
    (ofJson (.list (xs.map encode))).items item = .ok xs := by
  rw [ofJson, items, mapM_ofItems each]
  rfl

end Draft

/-- What is held in a field, when `read` are the fields that were read. -/
def held {α : Type} (read : List String) (name : String) (value : α) : Option α :=
  if name ∈ read then some value else none

section held

variable {α : Type} {read : List String} {name : String} (value : α)

theorem held_of_mem (mem : name ∈ read) : held read name value = some value := if_pos mem

theorem getD_held {unset : α} (given : name ∈ read ∨ value = unset) :
    (held read name value).getD unset = value := by
  rcases given with mem | rfl
  · rw [held_of_mem value mem, Option.getD_some]
  · rw [held]
    split <;> rfl

end held

namespace Shape

variable {σ α : Type} {shape : Shape σ α}

/-- `given` tells what is held of a value by the fields that were read: nothing at first, and a
field that was not read yet adds its own part, whenever it comes. `fits` says what a field is read
from. -/
structure Gathers (shape : Shape σ α) (given : List String → σ) (fits : String → Draft → Prop) :
    Prop where
  start : shape.start = given []
  put : ∀ {read : List String} {name : String} {d : Draft}, name ∉ read → fits name d →
    shape.put (given read) name d = .ok (given (name :: read))
  pass : ∀ {read : List String} {name : String}, name ∉ shape.fields → given (name :: read) = given read

variable {given : List String → σ} {fits : String → Draft → Prop} {ms : List (String × Json)}

/-- Every member with the name of a field has a value that fits there. -/
def Agrees (shape : Shape σ α) (fits : String → Draft → Prop) (ms : List (String × Json)) : Prop :=
  ∀ m ∈ ms, m.1 ∈ shape.fields → fits m.1 (Draft.ofJson m.2)

theorem member_ofJson (gathers : shape.Gathers given fits) {read : List String} {m : String × Json}
    (agrees : m.1 ∈ shape.fields → fits m.1 (Draft.ofJson m.2)) (fresh : m.1 ∉ read) :
    shape.member (given read) (.text m.1) (Draft.ofJson m.2) = .ok (given (m.1 :: read)) := by
  have key : Draft.lift (Draft.text m.1).key = .ok m.1 := rfl
  rw [member, key]
  by_cases field : m.1 ∈ shape.fields
  · have put := gathers.put fresh (agrees field)
    exact (if_pos field).trans put
  · rw [gathers.pass field, Draft.skip_ofJson]
    exact if_neg field

theorem members_ofMembers (gathers : shape.Gathers given fits) (agrees : shape.Agrees fits ms)
    (read : List String) (distinct : (ms.map (·.1)).Nodup) (fresh : ∀ m ∈ ms, m.1 ∉ read) :
    shape.members (given read) (Draft.ofMembers ms) = .ok (given ((ms.map (·.1)).reverse ++ read)) := by
  induction ms generalizing read with
  | nil => rfl
  | cons m ms ih =>
    obtain ⟨apart, distinct⟩ := List.nodup_cons.mp distinct
    have first := member_ofJson gathers (agrees m List.mem_cons_self) (fresh m List.mem_cons_self)
    -- a name that came once does not come again, so no field is given twice
    have unread : ∀ n ∈ ms, n.1 ∉ m.1 :: read := by
      intro n mem again
      rcases List.mem_cons.mp again with same | seen
      · exact apart (List.mem_map.mpr ⟨n, mem, same⟩)
      · exact fresh n (List.mem_cons_of_mem _ mem) seen
    have rest := ih (fun n mem => agrees n (List.mem_cons_of_mem _ mem)) (m.1 :: read) distinct unread
    rw [Draft.ofMembers, members, first, List.map_cons, List.reverse_cons, List.append_assoc,
      List.singleton_append]
    exact rest

/-- A record of members that agree is decoded to what all its fields together make. -/
theorem decode_record (gathers : shape.Gathers given fits) (agrees : shape.Agrees fits ms)
    (distinct : (ms.map (·.1)).Nodup) {value : α} (source : Source)
    (finish : ∀ read : List String, (∀ m ∈ ms, m.1 ∈ read) → shape.finish (given read) = .ok value) :
    shape.decode source (Draft.ofJson (.record ms)) = .ok value := by
  have read := members_ofMembers gathers agrees [] distinct fun _ _ => List.not_mem_nil
  have complete : ∀ m ∈ ms, m.1 ∈ (ms.map (·.1)).reverse := fun m mem =>
    List.mem_reverse.mpr (List.mem_map_of_mem mem)
  rw [← gathers.start, List.append_nil] at read
  rw [Draft.ofJson, decode, read]
  exact congrArg (Except.mapError _) (finish _ complete)

end Shape

theorem decodeText_pretty {α : Type} (value : Draft → Except Problem α) {j : Json}
    (legible : Legible Document.depthLimit j) : decodeText value j.pretty = value (Draft.ofJson j) := by
  rw [decodeText, Document.read_pretty legible.1 legible.2]
  exact bind_pure (value (Draft.ofJson j))

theorem decodeText_compact {α : Type} (value : Draft → Except Problem α) {j : Json}
    (legible : Legible Document.depthLimit j) : decodeText value j.compact = value (Draft.ofJson j) := by
  rw [decodeText, Document.read_compact legible.1 legible.2]
  exact bind_pure (value (Draft.ofJson j))

end HostSetup.Json
