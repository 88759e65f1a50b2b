import HostSetup.Json.Document
import HostSetup.Proofs.Json.Words

/-!
Reading what was printed: the machine that builds the tree of a text has the value back when its
last word is taken, and nothing is left over. Containers may not stand around each other in more
levels than are read.
-/
namespace HostSetup.Json

mutual

/-- How many containers stand around each other. -/
def depth : Json → Nat
  | .list items => depthItems items + 1
  | .record members => depthMembers members + 1
  | _ => 0

def depthItems : List Json → Nat
  | [] => 0
  | item :: rest => max (depth item) (depthItems rest)

def depthMembers : List (String × Json) → Nat
  | [] => 0
  | (_, value) :: rest => max (depth value) (depthMembers rest)

end

namespace Document

theorem finish_list {frames : List Frame} (room : frames.length < depthLimit) (items : List Draft) :
    finish (.list items) frames = deliver (.list items.reverse none) frames := by
  rw [finish, bounded, if_neg (Nat.not_le.mpr room)]
  rfl

theorem finish_record {frames : List Frame} (room : frames.length < depthLimit)
    (members : List (Draft × Draft)) :
    finish (.record members none) frames = deliver (.record members.reverse none) frames := by
  rw [finish, bounded, if_neg (Nat.not_le.mpr room)]
  rfl

mutual

/-- The words of a value, where a value is due, deliver it. -/
theorem run_tokens (j : Json) {frames : List Frame} (empty : Bool)
    (room : frames.length + j.depth ≤ depthLimit) :
    (tokens j).foldl State.step (State.atValue frames empty) = deliver (Draft.ofJson j) frames := by
  match j with
  | .null | .bool _ | .number _ | .text _ => rfl
  | .list [] => exact finish_list room []
  | .list (item :: items) =>
    simp only [depth, depthItems] at room
    rw [tokens, List.foldl_cons, List.foldl_append]
    -- the bracket has put a frame of its own on top
    change (itemTokens items).foldl _
      ((tokens item).foldl _ (State.atValue (.list [] :: frames) true)) = _
    rw [run_tokens item true (by simp only [List.length_cons]; omega)]
    exact run_itemTokens items frames [Draft.ofJson item] (by omega)
  | .record [] => exact finish_record room []
  | .record ((name, value) :: members) =>
    simp only [depth, depthMembers] at room
    rw [tokens, List.foldl_cons, List.foldl_cons, List.foldl_cons, List.foldl_append]
    change (memberTokens members).foldl _
      ((tokens value).foldl _ (State.atValue (.record [] (some (.text name)) :: frames) false)) = _
    rw [run_tokens value false (by simp only [List.length_cons]; omega)]
    exact run_memberTokens members frames [(.text name, Draft.ofJson value)] (by omega)

/-- The items behind those that were read, to the end of their list. -/
theorem run_itemTokens (items : List Json) (frames : List Frame) (read : List Draft)
    (room : frames.length + depthItems items < depthLimit) :
    (itemTokens items).foldl State.step (.atSeparator (.list read :: frames)) =
      deliver (.list (read.reverse ++ Draft.ofItems items) none) frames := by
  match items with
  | [] =>
    rw [Draft.ofItems, List.append_nil]
    exact finish_list room read
  | item :: items =>
    simp only [depthItems] at room
    rw [itemTokens, List.foldl_cons, List.foldl_append]
    change (itemTokens items).foldl _
      ((tokens item).foldl _ (State.atValue (.list read :: frames) false)) = _
    rw [run_tokens item false (by simp only [List.length_cons]; omega)]
    have rest := run_itemTokens items frames (Draft.ofJson item :: read) (by omega)
    rwa [List.reverse_cons, List.append_assoc] at rest

theorem run_memberTokens (members : List (String × Json)) (frames : List Frame)
    (read : List (Draft × Draft)) (room : frames.length + depthMembers members < depthLimit) :
    (memberTokens members).foldl State.step (.atSeparator (.record read none :: frames)) =
      deliver (.record (read.reverse ++ Draft.ofMembers members) none) frames := by
  match members with
  | [] =>
    rw [Draft.ofMembers, List.append_nil]
    exact finish_record room read
  | (name, value) :: members =>
    simp only [depthMembers] at room
    rw [memberTokens, List.foldl_cons, List.foldl_cons, List.foldl_cons, List.foldl_append]
    change (memberTokens members).foldl _
      ((tokens value).foldl _ (State.atValue (.record read (some (.text name)) :: frames) false)) = _
    rw [run_tokens value false (by simp only [List.length_cons]; omega)]
    have rest := run_memberTokens members frames ((.text name, Draft.ofJson value) :: read) (by omega)
    rwa [List.reverse_cons, List.append_assoc] at rest

end

theorem ofTokens_tokens {j : Json} (shallow : j.depth ≤ depthLimit) :
    ofTokens (tokens j) = ⟨Draft.ofJson j, false⟩ := by
  rw [ofTokens, run_tokens j false (by simpa using shallow)]
  rfl

theorem read_pretty {j : Json} (exact : j.Exact) (shallow : j.depth ≤ depthLimit) :
    read j.pretty = ⟨Draft.ofJson j, false⟩ := by
  rw [read, lex_pretty exact, ofTokens_tokens shallow]

theorem read_compact {j : Json} (exact : j.Exact) (shallow : j.depth ≤ depthLimit) :
    read j.compact = ⟨Draft.ofJson j, false⟩ := by
  rw [read, lex_compact exact, ofTokens_tokens shallow]

end Document

/-- What is printed of the value can be read again, where so many levels of containers are read. -/
def Legible (levels : Nat) (j : Json) : Prop := j.Exact ∧ j.depth ≤ levels

/-- The members of a record that are not absent. -/
def present (members : List (String × Option Json)) : List (String × Json) :=
  members.filterMap fun (name, value?) => value?.map (name, ·)

theorem mem_present {members : List (String × Option Json)} {name : String} {value : Json} :
    (name, value) ∈ present members ↔ (name, some value) ∈ members := by
  simp only [present, List.mem_filterMap, Option.map_eq_some_iff, Prod.mk.injEq]
  constructor
  · rintro ⟨⟨other, value?⟩, mem, held, eq, rfl, rfl⟩
    exact eq ▸ mem
  · intro mem
    exact ⟨(name, some value), mem, value, rfl, rfl, rfl⟩

theorem names_present_sublist (members : List (String × Option Json)) :
    ((present members).map (·.1)).Sublist (members.map (·.1)) := by
  induction members with
  | nil => exact .slnil
  | cons member members ih =>
    obtain ⟨name, value?⟩ := member
    cases value? with
    | none => exact ih.cons name
    | some value => exact ih.cons_cons name

section Legible

variable {levels : Nat}

theorem Legible.mono {more : Nat} {j : Json} (legible : Legible levels j) (le : levels ≤ more) :
    Legible more j := ⟨legible.1, Nat.le_trans legible.2 le⟩

theorem legible_text (s : String) : Legible levels (.text s) := ⟨trivial, Nat.zero_le _⟩

theorem legible_bool (b : Bool) : Legible levels (.bool b) := ⟨trivial, Nat.zero_le _⟩

theorem legible_natural {n : Nat} (fits : n < UInt64.size) : Legible levels (natural n) :=
  ⟨fits, Nat.zero_le _⟩

theorem legible_list {items : List Json} (each : ∀ item ∈ items, Legible levels item) :
    Legible (levels + 1) (.list items) := by
  have inner : ExactItems items ∧ depthItems items ≤ levels := by
    induction items with
    | nil => exact ⟨trivial, Nat.zero_le _⟩
    | cons item items ih =>
      obtain ⟨exact, shallow⟩ := each item List.mem_cons_self
      obtain ⟨exactRest, shallowRest⟩ := ih fun other mem => each other (List.mem_cons_of_mem _ mem)
      exact ⟨⟨exact, exactRest⟩, Nat.max_le.mpr ⟨shallow, shallowRest⟩⟩
  exact ⟨inner.1, Nat.succ_le_succ inner.2⟩

theorem legible_texts (items : List String) : Legible (levels + 1) (texts items) := by
  refine legible_list fun item mem => ?_
  obtain ⟨s, _, rfl⟩ := List.mem_map.mp mem
  exact legible_text s

theorem legible_record {members : List (String × Json)}
    (each : ∀ member ∈ members, Legible levels member.2) : Legible (levels + 1) (.record members) := by
  have inner : ExactMembers members ∧ depthMembers members ≤ levels := by
    induction members with
    | nil => exact ⟨trivial, Nat.zero_le _⟩
    | cons member members ih =>
      obtain ⟨exact, shallow⟩ := each member List.mem_cons_self
      obtain ⟨exactRest, shallowRest⟩ := ih fun other mem => each other (List.mem_cons_of_mem _ mem)
      exact ⟨⟨exact, exactRest⟩, Nat.max_le.mpr ⟨shallow, shallowRest⟩⟩
  exact ⟨inner.1, Nat.succ_le_succ inner.2⟩

theorem legible_textRecord (members : List (String × String)) :
    Legible (levels + 1) (.record (members.map fun member => (member.1, .text member.2))) := by
  refine legible_record fun member mem => ?_
  obtain ⟨_, _, rfl⟩ := List.mem_map.mp mem
  exact legible_text _

theorem legible_recordOf {members : List (String × Option Json)}
    (each : ∀ name value, (name, some value) ∈ members → Legible levels value) :
    Legible (levels + 1) (recordOf members) :=
  legible_record fun (name, value) mem => each name value (mem_present.mp mem)

end Legible
end HostSetup.Json
