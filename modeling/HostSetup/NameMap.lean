/-!
Maps from names, held in the order of the names. The order is part of the type, so that two maps
with the same entries are equal.
-/
namespace HostSetup

structure NameMap (α : Type) where
  entries : List (String × α)
  ascending : entries.Pairwise (·.1 < ·.1)
  deriving DecidableEq, Repr

namespace NameMap

variable {α : Type}

/-- Puts an entry where its name belongs; of equal names the new one stays. -/
def put (name : String) (value : α) : List (String × α) → List (String × α)
  | [] => [(name, value)]
  | (other, held) :: rest =>
    if name = other then (name, value) :: rest
    else if name < other then (name, value) :: (other, held) :: rest
    else (other, held) :: put name value rest

theorem fst_of_mem_put {name : String} {value : α} {entries : List (String × α)}
    {entry : String × α} (mem : entry ∈ put name value entries) :
    entry.1 = name ∨ entry ∈ entries := by
  induction entries with
  | nil => simp_all [put]
  | cons head rest ih =>
    simp only [put] at mem
    split at mem
    · rcases List.mem_cons.mp mem with eq | mem
      · exact .inl (by simp [eq])
      · exact .inr (List.mem_cons_of_mem _ mem)
    · split at mem
      · rcases List.mem_cons.mp mem with eq | mem
        · exact .inl (by simp [eq])
        · exact .inr mem
      · rcases List.mem_cons.mp mem with eq | mem
        · exact .inr (by simp [eq])
        · exact (ih mem).imp id (List.mem_cons_of_mem _)

theorem ascending_put (name : String) (value : α) {entries : List (String × α)}
    (ascending : entries.Pairwise (·.1 < ·.1)) : (put name value entries).Pairwise (·.1 < ·.1) := by
  induction entries with
  | nil => simp [put]
  | cons head rest ih =>
    obtain ⟨other, held⟩ := head
    obtain ⟨above, tail⟩ := List.pairwise_cons.mp ascending
    simp only [put]
    split
    · rename_i eq
      exact List.pairwise_cons.mpr ⟨fun entry mem => eq ▸ above entry mem, tail⟩
    · split
      · rename_i ne lt
        refine List.pairwise_cons.mpr ⟨fun entry mem => ?_, ascending⟩
        rcases List.mem_cons.mp mem with eq | mem
        · exact eq ▸ lt
        · exact String.lt_trans lt (above entry mem)
      · rename_i ne notLt
        refine List.pairwise_cons.mpr ⟨fun entry mem => ?_, ih tail⟩
        rcases fst_of_mem_put mem with eq | mem
        · exact eq ▸ Std.lt_of_le_of_ne (String.not_lt.mp notLt) (Ne.symm ne)
        · exact above entry mem

def empty : NameMap α := ⟨[], .nil⟩

instance : Inhabited (NameMap α) := ⟨empty⟩

def insert (name : String) (value : α) (m : NameMap α) : NameMap α :=
  ⟨put name value m.entries, ascending_put name value m.ascending⟩

def get? (name : String) (m : NameMap α) : Option α := (m.entries.find? (·.1 == name)).map (·.2)

def ofList (entries : List (String × α)) : NameMap α :=
  entries.foldl (fun m entry => m.insert entry.1 entry.2) empty

theorem find?_put (name key : String) (value : α) (entries : List (String × α)) :
    (put name value entries).find? (·.1 == key) =
      if name = key then some (name, value) else entries.find? (·.1 == key) := by
  induction entries with
  | nil => by_cases same : name = key <;> simp [put, same]
  | cons head rest ih =>
    simp only [put]
    split
    · rename_i eq
      by_cases same : name = key <;> simp_all
    · split
      · by_cases same : name = key <;> simp [same]
      · rename_i ne _
        by_cases reached : head.1 = key
        · subst reached
          simp [ne]
        · simp [reached, ih]

theorem get?_insert (name key : String) (value : α) (m : NameMap α) :
    (m.insert name value).get? key = if name = key then some value else m.get? key := by
  simp only [get?, insert, find?_put]
  split <;> rfl

end NameMap
end HostSetup
