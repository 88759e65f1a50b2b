import HostSetup.Text.Substitution

/-!
What a replacement makes of a text: every occurrence gives way to what is put in, and a character
where none begins stays. Something put in for a word leaves nothing empty that was not, and what
stands at the ends and shares no character with the word stays there.
-/
namespace HostSetup.Text

theorem substituteFrom_eq_nil_iff {new : List Char} (some_new : new ≠ []) (target cs : List Char) :
    substituteFrom target new 0 cs = [] ↔ cs = [] := by
  cases cs with
  | nil => simp [substituteFrom]
  | cons c rest =>
    rw [substituteFrom]
    split
    · simp [some_new]
    · simp

/-- Only an empty replacement can empty a text. -/
theorem substitute_eq_empty_iff {new : String} (some_new : new ≠ "") (target s : String) :
    substitute target new s = "" ↔ s = "" := by
  have letters : new.toList ≠ [] := by simpa using some_new
  rw [substitute, ← String.toList_eq_nil_iff, String.toList_ofList,
    substituteFrom_eq_nil_iff letters, String.toList_eq_nil_iff]

section Steps

variable {target new : List Char}

theorem substituteFrom_length (passed cs : List Char) :
    substituteFrom target new passed.length (passed ++ cs) = substituteFrom target new 0 cs := by
  induction passed with
  | nil => rfl
  | cons c rest ih => exact ih

theorem substituteFrom_occurrence (some_target : target ≠ []) (cs : List Char) :
    substituteFrom target new 0 (target ++ cs) = new ++ substituteFrom target new 0 cs := by
  obtain ⟨first, others, rfl⟩ := List.exists_cons_of_ne_nil some_target
  have occurs : (first :: others).isPrefixOf (first :: (others ++ cs)) = true :=
    List.isPrefixOf_iff_prefix.mpr ⟨cs, rfl⟩
  rw [List.cons_append, substituteFrom, if_pos occurs, List.length_cons, Nat.add_sub_cancel,
    substituteFrom_length]

theorem substituteFrom_letter {c : Char} {cs : List Char} (other : ¬target <+: c :: cs) :
    substituteFrom target new 0 (c :: cs) = c :: substituteFrom target new 0 cs := by
  rw [substituteFrom, if_neg (mt List.isPrefixOf_iff_prefix.mp other)]

/-- Where the first character of a word does not stand, no occurrence begins. -/
theorem substituteFrom_append_of_not_mem {first : Char} {others front : List Char}
    (absent : first ∉ front) (cs : List Char) :
    substituteFrom (first :: others) new 0 (front ++ cs) =
      front ++ substituteFrom (first :: others) new 0 cs := by
  induction front with
  | nil => rfl
  | cons c rest ih =>
    obtain ⟨differ, absent⟩ := List.ne_and_not_mem_of_not_mem_cons absent
    have other : ¬first :: others <+: c :: (rest ++ cs) := by simp [differ]
    rw [List.cons_append, substituteFrom_letter other, ih absent, List.cons_append]

/-- A word that is put in for itself. -/
theorem substituteFrom_self (some_target : target ≠ []) (skip : Nat) (cs : List Char) :
    substituteFrom target target skip cs = cs.drop skip := by
  induction cs generalizing skip with
  | nil => simp [substituteFrom]
  | cons c rest ih =>
    cases skip with
    | succ skip => exact ih skip
    | zero =>
      rw [substituteFrom, List.drop_zero]
      split
      · rename_i occurs
        obtain ⟨behind, whole⟩ := List.isPrefixOf_iff_prefix.mp occurs
        obtain ⟨first, others, rfl⟩ := List.exists_cons_of_ne_nil some_target
        rw [List.cons_append] at whole
        obtain ⟨rfl, rfl⟩ := List.cons.inj whole
        rw [ih, List.length_cons, Nat.add_sub_cancel, List.drop_left, List.cons_append]
      · rw [ih, List.drop_zero]

end Steps

section Ends

variable {target new : List Char}

theorem substituteFrom_append_left (some_target : target ≠ []) {front : List Char}
    (apart : ∀ c ∈ front, c ∉ target) (cs : List Char) :
    substituteFrom target new 0 (front ++ cs) = front ++ substituteFrom target new 0 cs := by
  obtain ⟨first, others, rfl⟩ := List.exists_cons_of_ne_nil some_target
  exact substituteFrom_append_of_not_mem (fun here => apart first here List.mem_cons_self) cs

/-- An occurrence does not reach into characters that the word does not have. -/
theorem isPrefixOf_append_of_apart {back : List Char} (apart : ∀ c ∈ back, c ∉ target)
    (cs : List Char) : target.isPrefixOf (cs ++ back) = target.isPrefixOf cs := by
  rw [Bool.eq_iff_iff, List.isPrefixOf_iff_prefix, List.isPrefixOf_iff_prefix]
  refine ⟨?_, fun shorter => shorter.trans (List.prefix_append cs back)⟩
  intro longer
  rcases List.prefix_or_prefix_of_prefix longer (List.prefix_append cs back) with within | beyond
  · exact within
  · obtain ⟨excess, rfl⟩ := beyond
    have reached := (List.prefix_append_right_inj cs).mp longer
    cases excess with
    | nil => simp
    | cons c rest => exact absurd (by simp) (apart c (reached.subset List.mem_cons_self))

theorem substituteFrom_append_right (some_target : target ≠ []) {back : List Char}
    (apart : ∀ c ∈ back, c ∉ target) {skip : Nat} {cs : List Char} (within : skip ≤ cs.length) :
    substituteFrom target new skip (cs ++ back) = substituteFrom target new skip cs ++ back := by
  induction cs generalizing skip with
  | nil =>
    obtain rfl : skip = 0 := Nat.le_zero.mp within
    have whole : substituteFrom target new 0 (back ++ []) = back ++ substituteFrom target new 0 [] :=
      substituteFrom_append_left some_target apart []
    simpa [substituteFrom] using whole
  | cons c rest ih =>
    cases skip with
    | succ skip => exact ih (Nat.le_of_succ_le_succ within)
    | zero =>
      have occurs := isPrefixOf_append_of_apart apart (c :: rest)
      rw [List.cons_append] at occurs ⊢
      simp only [substituteFrom, occurs]
      split
      · rename_i found
        have length := (List.isPrefixOf_iff_prefix.mp found).length_le
        rw [List.length_cons] at length
        rw [ih (by omega), List.append_assoc]
      · rw [ih (Nat.zero_le _), List.cons_append]

end Ends

theorem substitute_between {target new front back : String} (some_target : target ≠ "")
    (before : ∀ c ∈ front.toList, c ∉ target.toList) (behind : ∀ c ∈ back.toList, c ∉ target.toList)
    (s : String) :
    substitute target new (front ++ s ++ back) = front ++ substitute target new s ++ back := by
  have letters : target.toList ≠ [] := by simpa using some_target
  rw [← String.toList_inj]
  simp only [substitute, String.toList_append, String.toList_ofList]
  rw [substituteFrom_append_right letters behind (Nat.zero_le _), substituteFrom_append_left letters before]

theorem substitute_self {target : String} (some_target : target ≠ "") (s : String) :
    substitute target target s = s := by
  have letters : target.toList ≠ [] := by simpa using some_target
  rw [substitute, substituteFrom_self letters, List.drop_zero, String.ofList_toList]

end HostSetup.Text
