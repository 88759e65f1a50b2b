import HostSetup.Json.Token

/-!
Natural numbers are read as they were written, as long as they fit 64 bits and nothing follows that
would go on with the numeral.
-/
namespace HostSetup.Json
namespace Numeral

/-- No character of a numeral comes next. -/
def Ends (rest : List Char) : Prop :=
  ∀ c ∈ rest.head?, c.isDigit = false ∧ c ≠ '.' ∧ c ≠ 'e' ∧ c ≠ 'E'

theorem ends_nil : Ends [] := by simp [Ends]

theorem ends_cons {c : Char} {rest : List Char}
    (other : c.isDigit = false ∧ c ≠ '.' ∧ c ≠ 'e' ∧ c ≠ 'E') : Ends (c :: rest) := by
  simpa [Ends] using other

theorem takeWhile_digits {digits rest : List Char} (all : ∀ c ∈ digits, c.isDigit = true)
    (ends : Ends rest) : (digits ++ rest).takeWhile Char.isDigit = digits := by
  rw [List.takeWhile_append_of_pos all]
  cases rest with
  | nil => simp
  | cons c cs => simp [(ends c rfl).1]

theorem dropWhile_digits {digits rest : List Char} (all : ∀ c ∈ digits, c.isDigit = true)
    (ends : Ends rest) : (digits ++ rest).dropWhile Char.isDigit = rest := by
  rw [List.dropWhile_append_of_pos all]
  cases rest with
  | nil => rfl
  | cons c cs => simp [(ends c rfl).1]

/-- Digits are taken in to the last one where the number they make fits 64 bits. -/
theorem accumulate_eq (digits : List Char) {start : Nat}
    (fits : Nat.ofDigitChars 10 digits start < UInt64.size) :
    accumulate start digits = (Nat.ofDigitChars 10 digits start, 0) := by
  induction digits generalizing start with
  | nil => rfl
  | cons c cs ih =>
    have next : start * 10 + digit c = 10 * start + (c.toNat - '0'.toNat) := by
      rw [Nat.mul_comm]
      rfl
    rw [Nat.ofDigitChars_cons, ← next] at fits ⊢
    have within : start * 10 + digit c < UInt64.size := by
      rw [Nat.ofDigitChars_eq_ofDigitChars_zero] at fits
      have positive : 0 < 10 ^ cs.length := Nat.pow_pos (by decide)
      have grows := Nat.le_mul_of_pos_left (start * 10 + digit c) positive
      omega
    simp only [accumulate, within, if_true]
    exact ih fits

/-- Only zero is written with a zero in front. -/
theorem head_toDigits_ne_zero {n : Nat} (positive : 0 < n) : (Nat.toDigits 10 n).head? ≠ some '0' := by
  induction n using Nat.strongRecOn with
  | ind n ih =>
    by_cases small : n < 10
    · rw [Nat.toDigits_of_lt_base small, List.head?_cons]
      intro zero
      have none := Nat.digitChar_eq_zero.mp (Option.some.inj zero)
      omega
    · rw [Nat.toDigits_of_base_le (by decide) (by omega), List.head?_append]
      have front := ih (n / 10) (by omega) (by omega)
      cases leading : (Nat.toDigits 10 (n / 10)).head? with
      | none => simp [Nat.toDigits_ne_nil] at leading
      | some c => rwa [leading] at front

theorem lexWhole_toDigits (n : Nat) (rest : List Char) :
    lexWhole false (Nat.toDigits 10 n) rest = lexFraction false (Nat.toDigits 10 n) rest := by
  unfold lexWhole
  split
  · rename_i empty
    exact absurd empty Nat.toDigits_ne_nil
  · rename_i zeros
    cases n with
    | zero => simp [Nat.toDigits_zero] at zeros
    | succ n =>
      have front := head_toDigits_ne_zero (Nat.succ_pos n)
      simp [zeros] at front
  · rfl

theorem lexFraction_ends (digits : List Char) {rest : List Char} (ends : Ends rest) :
    lexFraction false digits rest = (finish ⟨false, digits, [], none⟩, rest) := by
  cases rest with
  | nil => rfl
  | cons c cs =>
    obtain ⟨_, notPoint, notSmall, notLarge⟩ := ends c rfl
    unfold lexFraction
    split
    · simp_all
    · simp [lexExponent, notSmall, notLarge]

theorem finish_toDigits {n : Nat} (fits : n < UInt64.size) :
    finish ⟨false, Nat.toDigits 10 n, [], none⟩ = .number (.natural n) := by
  have whole : accumulate 0 (Nat.toDigits 10 n) = (n, 0) := by
    have value : Nat.ofDigitChars 10 (Nat.toDigits 10 n) 0 = n := Nat.ofDigitChars_ten_toDigits
    rw [accumulate_eq _ (by rwa [value]), value]
  simp [finish, Parts.number?, whole]

/-- A digit begins nothing but a numeral. -/
theorem begins_numeral {c : Char} (digit : c.isDigit = true) :
    isSpace c = false ∧ punctuation? c = none ∧ c ≠ '"' ∧ keyword? c = none ∧ c ≠ '-' := by
  refine ⟨?_, ?_, ?_, ?_, ?_⟩
  · unfold isSpace
    rw [Bool.eq_false_iff]
    intro space
    simp only [Bool.or_eq_true, decide_eq_true_eq] at space
    rcases space with ((rfl | rfl) | rfl) | rfl <;> contradiction
  · unfold punctuation?
    split <;> first | contradiction | rfl
  · rintro rfl
    contradiction
  · unfold keyword?
    split <;> first | contradiction | rfl
  · rintro rfl
    contradiction

theorem lexScalar_natural {n : Nat} (fits : n < UInt64.size) {rest : List Char} (ends : Ends rest)
    {c : Char} {cs : List Char} (digits : Nat.toDigits 10 n = c :: cs) :
    lexScalar c (cs ++ rest) = (.number (.natural n), rest) := by
  have all : ∀ d ∈ c :: cs, d.isDigit = true := by
    rw [← digits]
    exact fun d member => Nat.isDigit_of_mem_toDigits (by decide) (by decide) member
  obtain ⟨first, others⟩ := List.forall_mem_cons.mp all
  obtain ⟨_, _, _, notWord, notMinus⟩ := begins_numeral first
  unfold lexScalar
  rw [notWord]
  simp only [notMinus, first, if_true, if_false]
  rw [takeWhile_digits others ends, dropWhile_digits others ends, ← digits, lexWhole_toDigits,
    lexFraction_ends _ ends, finish_toDigits fits]

theorem lex_natural {n : Nat} (fits : n < UInt64.size) {rest : List Char} (ends : Ends rest) :
    lex (Nat.toDigits 10 n ++ rest) = .leaf (.number (.natural n)) :: lex rest := by
  cases digits : Nat.toDigits 10 n with
  | nil => exact absurd digits Nat.toDigits_ne_nil
  | cons c cs =>
    have digit : c.isDigit = true :=
      Nat.isDigit_of_mem_toDigits (n := n) (by decide) (by decide) (digits ▸ List.mem_cons_self)
    obtain ⟨notSpace, notMark, notQuote, _, _⟩ := begins_numeral digit
    have scalar := lexScalar_natural fits ends digits
    rw [List.cons_append, lex]
    simp only [notSpace, notMark, notQuote, if_false, Bool.false_eq_true, scalar]

end Numeral
end HostSetup.Json
