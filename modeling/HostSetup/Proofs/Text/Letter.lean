import HostSetup.Proofs.Text.Blank
import HostSetup.Text.Letter

/-!
Lower case does not tell the two cases of an ASCII letter apart, not even by the form of a sigma
next to it: a letter of either case has a case, and neither is passed over. Where a text is trimmed
or cut into words does not hang on case either.
-/
namespace HostSetup.Text

section Letters

/-- What is the same for the two cases of each of the 26 letters is the same for every character and
its ASCII lower case. -/
theorem apply_toLower {β : Type} {f : Char → β}
    (letters : ∀ n : Fin 26, f (.ofNat (97 + n)) = f (.ofNat (65 + n))) (c : Char) :
    f c.toLower = f c := by
  by_cases upper : 65 ≤ c.toNat ∧ c.toNat ≤ 90
  · have place : c = .ofNat (65 + (c.toNat - 65)) := by
      rw [Nat.add_sub_cancel' upper.1, Char.ofNat_toNat]
    have image (n : Fin 26) : (Char.ofNat (65 + n)).toLower = .ofNat (97 + n) := by
      revert n
      decide
    have letter := letters ⟨c.toNat - 65, by omega⟩
    rw [← image, ← place] at letter
    exact letter
  · have same : c.toLower = c := by
      unfold Char.toLower
      rw [dif_neg]
      intro range
      exact upper ⟨UInt32.le_iff_toNat_le.mp range.1, UInt32.le_iff_toNat_le.mp range.2⟩
    rw [same]

theorem isBlank_toLower (c : Char) : isBlank c.toLower = isBlank c := apply_toLower (by decide) c

namespace Letter

theorem isCased_toLower (c : Char) : isCased c.toLower = isCased c := apply_toLower (by decide) c

theorem isIgnorable_toLower (c : Char) : isIgnorable c.toLower = isIgnorable c :=
  apply_toLower (by decide) c

theorem lower_toLower (c : Char) : lower c.toLower = lower c := apply_toLower (by decide) c

theorem isSigma_toLower (c : Char) : decide (c.toLower = 'Σ') = decide (c = 'Σ') :=
  apply_toLower (f := fun c => decide (c = 'Σ')) (by decide) c

theorem meetsCased_toLower (cs : List Char) : meetsCased (cs.map Char.toLower) = meetsCased cs := by
  have through : isIgnorable ∘ Char.toLower = isIgnorable := funext isIgnorable_toLower
  rw [meetsCased, List.dropWhile_map, through, meetsCased]
  cases cs.dropWhile isIgnorable with
  | nil => rfl
  | cons c rest => exact isCased_toLower c

theorem lowerFrom_toLower (before cs : List Char) :
    lowerFrom (before.map Char.toLower) (cs.map Char.toLower) = lowerFrom before cs := by
  induction cs generalizing before with
  | nil => rfl
  | cons c rest ih =>
    have sigma : c.toLower = 'Σ' ↔ c = 'Σ' := by simpa using isSigma_toLower c
    simp only [List.map_cons, lowerFrom, ← ih (c :: before), sigma, meetsCased_toLower, lower_toLower]

end Letter

end Letters

theorem toList_toLower (s : String) : s.toLower.toList = s.toList.map Char.toLower := String.toList_map

theorem lowercase_toLower (s : String) : lowercase s.toLower = lowercase s := by
  rw [lowercase, toList_toLower]
  exact congrArg String.ofList (Letter.lowerFrom_toLower [] s.toList)

theorem splitOnP_map {p : Char → Bool} {f : Char → Char} (same : ∀ c, p (f c) = p c)
    (cs : List Char) : (cs.map f).splitOnP p = (cs.splitOnP p).map (List.map f) := by
  induction cs with
  | nil => simp
  | cons c rest ih =>
    rw [List.map_cons, List.splitOnP_cons_eq_if_modifyHead, List.splitOnP_cons_eq_if_modifyHead, same, ih]
    split
    · rfl
    · cases rest.splitOnP p <;> rfl

theorem words_toLower (s : String) : words s.toLower = (words s).map String.toLower := by
  have kept (part : List Char) : (part.map Char.toLower).isEmpty = part.isEmpty := List.isEmpty_map
  have text (part : List Char) : String.ofList (part.map Char.toLower) = (String.ofList part).toLower := by
    rw [← String.toList_inj, toList_toLower, String.toList_ofList, String.toList_ofList]
  simp only [words, fields, toList_toLower, splitOnP_map isBlank_toLower, List.filter_map, List.map_map,
    Function.comp_def, kept, text]

end HostSetup.Text
