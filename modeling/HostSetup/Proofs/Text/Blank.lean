import HostSetup.Text.Blank
import Mathlib.Data.List.DropRight

/-!
What trimming and splitting leave. A text stands between two runs of blanks that trimming takes, and
there is nothing more to take of what is left; a word has no blank in it, so it is its own only word.
Blanks around a text do not change its words, and texts joined by spaces have the words of each.
-/
namespace HostSetup.Text

/-- Trimming takes blanks only, and only at the two ends. -/
theorem exists_ends (s : String) :
    ∃ front back : String, s = front ++ trim s ++ back ∧
      (∀ c ∈ front.toList, isBlank c = true) ∧ ∀ c ∈ back.toList, isBlank c = true := by
  let inner := s.toList.dropWhile isBlank
  refine ⟨.ofList (s.toList.takeWhile isBlank), .ofList (inner.rtakeWhile isBlank), ?whole, ?front, ?back⟩
  case whole =>
    have kept : (trim s).toList = inner.rdropWhile isBlank := String.toList_ofList
    rw [← String.toList_inj]
    simp only [String.toList_append, String.toList_ofList, kept, List.append_assoc,
      List.rdropWhile_append_rtakeWhile, inner, List.takeWhile_append_dropWhile]
  case front =>
    intro c member
    rw [String.toList_ofList] at member
    exact List.mem_takeWhile_imp member
  case back =>
    intro c member
    rw [String.toList_ofList] at member
    exact List.mem_rtakeWhile_imp member

section Ends

variable {p : Char → Bool}

theorem dropWhile_append_cons (front : List Char) {c : Char} (kept : p c = false) (back : List Char) :
    (front ++ c :: back).dropWhile p = front.dropWhile p ++ c :: back := by
  rw [List.dropWhile_append]
  split
  · rename_i nothing
    simp [List.isEmpty_iff.mp nothing, kept]
  · rfl

/-- A character that is not stripped shields what is inside from both ends. -/
theorem stripEnds_append_cons (front : List Char) {c : Char} (kept : p c = false) (back : List Char) :
    stripEnds p (front ++ c :: back) = front.dropWhile p ++ c :: back.rdropWhile p := by
  have mirrored : (front.dropWhile p ++ c :: back).reverse =
      back.reverse ++ c :: (front.dropWhile p).reverse := by simp
  rw [stripEnds, dropWhile_append_cons front kept, mirrored, dropWhile_append_cons _ kept]
  simp [List.rdropWhile]

theorem stripEnds_prepend {front : List Char} (stripped : ∀ c ∈ front, p c = true) (cs : List Char) :
    stripEnds p (front ++ cs) = stripEnds p cs := by
  rw [stripEnds, List.dropWhile_append_of_pos stripped, stripEnds]

theorem stripEnds_append (cs : List Char) {back : List Char} (stripped : ∀ c ∈ back, p c = true) :
    stripEnds p (cs ++ back) = stripEnds p cs := by
  rw [stripEnds, List.dropWhile_append]
  split
  · rename_i nothing
    rw [List.dropWhile_eq_nil_iff.mpr stripped, stripEnds, List.isEmpty_iff.mp nothing]
  · have behind : ∀ c ∈ back.reverse, p c = true := by simpa using stripped
    rw [List.reverse_append, List.dropWhile_append_of_pos behind, stripEnds]

/-- Nothing is stripped of a text that ends in other characters. -/
theorem stripEnds_eq_self {cs : List Char} (front : ∀ c, cs.head? = some c → p c = false)
    (back : ∀ c, cs.getLast? = some c → p c = false) : stripEnds p cs = cs := by
  cases cs with
  | nil => rfl
  | cons c rest =>
    have kept : p c = false := front c rfl
    have last : (c :: rest).rdropWhile p = c :: rest := by
      rw [List.rdropWhile_eq_self_iff]
      intro given
      simp [back _ (List.getLast?_eq_some_getLast given)]
    rw [stripEnds, List.dropWhile_cons_of_neg (by simp [kept])]
    exact last

theorem stripEnds_between {c : Char} (kept : p c = false) (cs : List Char) :
    stripEnds p (c :: cs ++ [c]) = c :: cs ++ [c] := by
  refine stripEnds_eq_self ?first ?last
  case first =>
    intro d first
    rwa [← Option.some.inj first]
  case last =>
    intro d last
    rw [List.getLast?_concat] at last
    rwa [← Option.some.inj last]

theorem stripEnds_of_between {c : Char} (stripped : p c = true) (cs : List Char) :
    stripEnds p (c :: cs ++ [c]) = stripEnds p cs := by
  have mark : ∀ d ∈ [c], p d = true := List.forall_mem_singleton.mpr stripped
  rw [stripEnds_append _ mark, ← List.singleton_append, stripEnds_prepend mark]

theorem head?_stripEnds (cs : List Char) : (stripEnds p cs).head? = (cs.dropWhile p).head? := by
  have front : stripEnds p cs = stripEnds p (cs.dropWhile p) := by
    conv_lhs => rw [← List.takeWhile_append_dropWhile (p := p) (l := cs)]
    exact stripEnds_prepend (fun _ => List.mem_takeWhile_imp) _
  have visible := List.head?_dropWhile_not p cs
  rw [front]
  cases inner : cs.dropWhile p with
  | nil => rfl
  | cons c rest =>
    rw [inner] at visible
    rw [← List.nil_append (c :: rest), stripEnds_append_cons [] visible rest]
    rfl

theorem stripEnds_map {f : Char → Char} (same : ∀ c, p (f c) = p c) (cs : List Char) :
    stripEnds p (cs.map f) = (stripEnds p cs).map f := by
  have through : p ∘ f = p := funext same
  simp only [stripEnds, List.dropWhile_map, ← List.map_reverse, through]

end Ends

theorem trim_between {front back : String} (before : ∀ c ∈ front.toList, isBlank c = true)
    (behind : ∀ c ∈ back.toList, isBlank c = true) (s : String) : trim (front ++ s ++ back) = trim s := by
  simp only [trim, String.toList_append, stripEnds_append _ behind, stripEnds_prepend before]

theorem of_mem_splitOnP {p : Char → Bool} {cs part : List Char} (member : part ∈ cs.splitOnP p) :
    ∀ c ∈ part, p c = false := by
  induction cs generalizing part with
  | nil => simp_all
  | cons head rest ih =>
    obtain ⟨first, others, split⟩ := List.exists_cons_of_ne_nil (List.splitOnP_ne_nil p rest)
    have held (other : List Char) (place : other ∈ first :: others) : ∀ c ∈ other, p c = false :=
      ih (split ▸ place)
    rw [List.splitOnP_cons_eq_if_modifyHead, split] at member
    cases parts : p head with
    | true =>
      rw [if_pos parts] at member
      rcases List.mem_cons.mp member with rfl | later
      · simp
      · exact held part later
    | false =>
      rw [if_neg (by simp [parts])] at member
      rcases List.mem_cons.mp member with rfl | later
      · exact List.forall_mem_cons.mpr ⟨parts, held first List.mem_cons_self⟩
      · exact held part (List.mem_cons_of_mem first later)

theorem fields_eq_singleton {cs : List Char} (given : cs ≠ []) (whole : ∀ c ∈ cs, isBlank c = false) :
    fields cs = [cs] := by
  simp [fields, List.splitOnP_eq_singleton whole, given]

theorem words_of_mem_words {s word : String} (member : word ∈ words s) : words word = [word] := by
  obtain ⟨field, place, rfl⟩ := List.mem_map.mp member
  obtain ⟨part, given⟩ := List.mem_filter.mp place
  rw [words, String.toList_ofList, fields_eq_singleton (by simpa using given) (of_mem_splitOnP part)]
  rfl

theorem fields_blanks_append {front : List Char} (blank : ∀ c ∈ front, isBlank c = true)
    (cs : List Char) : fields (front ++ cs) = fields cs := by
  induction front with
  | nil => rfl
  | cons c rest ih =>
    obtain ⟨first, others⟩ := List.forall_mem_cons.mp blank
    exact (fields_append_blank [] (rest ++ cs) first).trans (ih others)

theorem fields_append_blanks (cs : List Char) {back : List Char}
    (blank : ∀ c ∈ back, isBlank c = true) : fields (cs ++ back) = fields cs := by
  cases back with
  | nil => rw [List.append_nil]
  | cons c rest =>
    obtain ⟨first, others⟩ := List.forall_mem_cons.mp blank
    have nothing : fields rest = [] := by simpa [fields_nil] using fields_blanks_append others []
    rw [fields_append_blank cs rest first, nothing, List.append_nil]

theorem words_trim (s : String) : words (trim s) = words s := by
  obtain ⟨front, back, whole, before, behind⟩ := exists_ends s
  have same : fields s.toList = fields (trim s).toList := by
    conv_lhs => rw [whole]
    rw [String.toList_append, String.toList_append, fields_append_blanks _ behind,
      fields_blanks_append before]
  rw [words, words, same]

theorem words_append_space (s t : String) : words (s ++ " " ++ t) = words s ++ words t := by
  have joined : (s ++ " " ++ t).toList = s.toList ++ ' ' :: t.toList := by simp
  rw [words, joined, fields_append_blank _ _ (by decide), List.map_append]
  rfl

theorem words_intercalate (items : List String) :
    words (" ".intercalate items) = items.flatMap words := by
  induction items with
  | nil => rfl
  | cons first rest ih =>
    cases rest with
    | nil => simp
    | cons second others =>
      rw [String.intercalate_cons_cons, words_append_space, ih]
      rfl

end HostSetup.Text
