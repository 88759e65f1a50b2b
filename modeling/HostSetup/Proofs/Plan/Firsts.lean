import HostSetup.Plan.Registry

/-!
First of each normal form: in a list of actions with their slots, those before which no other has
the same normal form. Of equal forms the first one stays, and where it stands.
-/
namespace HostSetup

/-- An action in the slot it is meant for. -/
abbrev Entry := Slot × Action

namespace Resolution

def IsFresh (before : List Entry) (entry : Entry) : Prop :=
  ∀ earlier ∈ before, earlier.2.normalized ≠ entry.2.normalized

instance (before : List Entry) (entry : Entry) : Decidable (IsFresh before entry) :=
  inferInstanceAs (Decidable (∀ earlier ∈ before, _))

theorem not_isFresh_iff {before : List Entry} {entry : Entry} :
    ¬IsFresh before entry ↔ ∃ earlier ∈ before, earlier.2.normalized = entry.2.normalized := by
  simp [IsFresh]

/-- The entries that are fresh at their place, when `before` stands before all of them. -/
def firstsAfter (before entries : List Entry) : List Entry :=
  ((entries.zipIdx before.length).filter fun indexed =>
    IsFresh ((before ++ entries).take indexed.2) indexed.1).map (·.1)

/-- The entries with no entry of the same normal form before them. -/
def firsts (entries : List Entry) : List Entry := firstsAfter [] entries

theorem firstsAfter_nil (before : List Entry) : firstsAfter before [] = [] := rfl

theorem firstsAfter_cons (before : List Entry) (entry : Entry) (rest : List Entry) :
    firstsAfter before (entry :: rest) =
      if IsFresh before entry then entry :: firstsAfter (before ++ [entry]) rest
      else firstsAfter (before ++ [entry]) rest := by
  have lengths : (before ++ [entry]).length = before.length + 1 := List.length_append
  have whole : before ++ [entry] ++ rest = before ++ entry :: rest := List.append_cons .. |>.symm
  have seen : (before ++ entry :: rest).take before.length = before := List.take_left
  simp only [firstsAfter, List.zipIdx_cons, List.filter_cons, lengths, whole, seen]
  by_cases fresh : IsFresh before entry
  · simp only [fresh, decide_true, if_true, List.map_cons]
  · simp only [fresh, decide_false, Bool.false_eq_true, if_false]

theorem firstsAfter_append (before first second : List Entry) :
    firstsAfter before (first ++ second) =
      firstsAfter before first ++ firstsAfter (before ++ first) second := by
  induction first generalizing before with
  | nil => simp [firstsAfter_nil]
  | cons entry rest ih =>
    have tail := ih (before ++ [entry])
    rw [List.append_assoc, List.singleton_append] at tail
    rw [List.cons_append, firstsAfter_cons, firstsAfter_cons, tail]
    split
    · rfl
    · rfl

theorem firstsAfter_subset (before entries : List Entry) : firstsAfter before entries ⊆ entries := by
  induction entries generalizing before with
  | nil => exact List.Subset.refl []
  | cons entry rest ih =>
    rw [firstsAfter_cons]
    split
    · exact List.cons_subset_cons entry (ih _)
    · exact List.Subset.trans (ih _) (List.subset_cons_self ..)

theorem mem_firstsAfter_cons {before entries : List Entry} {head entry : Entry}
    (kept : entry ∈ firstsAfter (before ++ [head]) entries) :
    entry ∈ firstsAfter before (head :: entries) := by
  rw [firstsAfter_cons]
  split
  · exact List.mem_cons_of_mem head kept
  · exact kept

/-- What is kept differs in its normal form from all before it, kept or not. -/
theorem isFresh_of_mem_firstsAfter {before entries : List Entry} {entry : Entry}
    (kept : entry ∈ firstsAfter before entries) : IsFresh before entry := by
  induction entries generalizing before with
  | nil => simp [firstsAfter_nil] at kept
  | cons head rest ih =>
    have later (kept : entry ∈ firstsAfter (before ++ [head]) rest) : IsFresh before entry := by
      intro earlier member
      exact ih kept earlier (List.mem_append_left _ member)
    rw [firstsAfter_cons] at kept
    split at kept
    · rename_i fresh
      rcases List.mem_cons.mp kept with rfl | kept
      · exact fresh
      · exact later kept
    · exact later kept

theorem firstsAfter_nodup (before entries : List Entry) :
    ((firstsAfter before entries).map (·.2.normalized)).Nodup := by
  induction entries generalizing before with
  | nil => exact List.nodup_nil
  | cons head rest ih =>
    rw [firstsAfter_cons]
    split
    · rw [List.map_cons, List.nodup_cons]
      refine ⟨?_, ih _⟩
      intro repeated
      obtain ⟨entry, kept, same⟩ := List.mem_map.mp repeated
      exact isFresh_of_mem_firstsAfter kept head (by simp) same.symm
    · exact ih _

/-- Some entry has the same normal form: it stands before all, or it is kept and `R` relates it. -/
def IsCovered (R : Entry → Entry → Prop) (before kept : List Entry) (entry : Entry) : Prop :=
  (∃ earlier ∈ before, earlier.2.normalized = entry.2.normalized) ∨
    ∃ first ∈ kept, first.2.normalized = entry.2.normalized ∧ R first entry

theorem isCovered_by_head {R : Entry → Entry → Prop} (before rest : List Entry) {head entry : Entry}
    (same : head.2.normalized = entry.2.normalized) (le : R head entry) :
    IsCovered R before (firstsAfter before (head :: rest)) entry := by
  rw [firstsAfter_cons]
  by_cases fresh : IsFresh before head
  · rw [if_pos fresh]
    exact .inr ⟨head, List.mem_cons_self, same, le⟩
  · obtain ⟨earlier, member, eq⟩ := not_isFresh_iff.mp fresh
    exact .inl ⟨earlier, member, eq.trans same⟩

/-- Every entry has its normal form among those kept, at its own place or before it, unless it has
it before them all. -/
theorem isCovered_by_firsts {R : Entry → Entry → Prop} (reflexive : ∀ e, R e e)
    (before : List Entry) {entries : List Entry} (ordered : entries.Pairwise R) {entry : Entry}
    (member : entry ∈ entries) : IsCovered R before (firstsAfter before entries) entry := by
  induction entries generalizing before with
  | nil => simp at member
  | cons head rest ih =>
    obtain ⟨above, ordered⟩ := List.pairwise_cons.mp ordered
    rcases List.mem_cons.mp member with rfl | later
    · exact isCovered_by_head before rest rfl (reflexive entry)
    · rcases ih (before ++ [head]) ordered later with ⟨earlier, place, same⟩ | ⟨first, kept, same, le⟩
      · rcases List.mem_append.mp place with place | place
        · exact .inl ⟨earlier, place, same⟩
        · obtain rfl := List.mem_singleton.mp place
          exact isCovered_by_head before rest same (above entry later)
      · exact .inr ⟨first, mem_firstsAfter_cons kept, same, le⟩

theorem exists_first {entries : List Entry} {entry : Entry} (member : entry ∈ entries) :
    ∃ first ∈ firsts entries, first.2.normalized = entry.2.normalized := by
  have unordered : entries.Pairwise fun _ _ => True := List.pairwise_of_forall fun _ _ => trivial
  rcases isCovered_by_firsts (fun _ => trivial) [] unordered member with
    ⟨_, before, _⟩ | ⟨first, kept, same, _⟩
  · contradiction
  · exact ⟨first, kept, same⟩

/-- Nothing is kept exactly if every entry has its normal form before them all. -/
theorem firstsAfter_eq_nil_iff {before entries : List Entry} :
    firstsAfter before entries = [] ↔ ∀ entry ∈ entries, ¬IsFresh before entry := by
  constructor
  · intro none entry member
    have unordered : entries.Pairwise fun _ _ => True := List.pairwise_of_forall fun _ _ => trivial
    rcases isCovered_by_firsts (fun _ => trivial) before unordered member with seen | ⟨first, kept, _⟩
    · exact not_isFresh_iff.mpr seen
    · rw [none] at kept
      contradiction
  · intro stale
    rw [List.eq_nil_iff_forall_not_mem]
    intro entry kept
    exact stale entry (firstsAfter_subset _ _ kept) (isFresh_of_mem_firstsAfter kept)

end Resolution
end HostSetup
