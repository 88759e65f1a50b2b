import HostSetup.Json.Printer
import HostSetup.Json.Token

/-!
Strings are read as they were written: whatever its characters, a quoted text is read back, and
nothing behind its closing quote is touched.
-/
namespace HostSetup.Json
namespace Quotation

theorem hexValue?_hexDigit : ∀ n < 16, hexValue? (hexDigit n) = some n := by decide

/-- Nothing is pending, and all characters so far could be read. -/
def reading (read : List Char) : State := ⟨.none, read, false⟩

/-- Some digits of an escape have been read, and the others are to come. -/
def readingCode (read : List Char) (count value : Nat) : State := ⟨.code count value none, read, false⟩

theorem lex_cons {s next : State} {c : Char} {cs : List Char} (goes : s.step c cs = .more next) :
    lex s (c :: cs) = lex next cs := by
  simp only [lex, goes]

theorem lex_plain (read : List Char) {c : Char} (notQuote : c ≠ '"') (notEscape : c ≠ '\\')
    (printable : ¬c.toNat < 0x20) (cs : List Char) :
    lex (reading read) (c :: cs) = lex (reading (c :: read)) cs := by
  apply lex_cons
  simp [State.step, reading, State.plain, notQuote, notEscape, printable, State.push]

theorem lex_digit {read : List Char} {count value : Nat} {c : Char} {h : Nat}
    (digit : hexValue? c = some h) (more : count ≠ 3) (cs : List Char) :
    lex (readingCode read count value) (c :: cs) =
      lex (readingCode read (count + 1) (value * 16 + h)) cs := by
  apply lex_cons
  simp [State.step, readingCode, digit, more]

theorem lex_last_digit {read : List Char} {value : Nat} {c : Char} {h : Nat}
    (digit : hexValue? c = some h) (single : ¬isLead (value * 16 + h) ∧ ¬isTrail (value * 16 + h))
    (cs : List Char) :
    lex (readingCode read 3 value) (c :: cs) = lex (reading (.ofNat (value * 16 + h) :: read)) cs := by
  apply lex_cons
  simp [State.step, readingCode, digit, State.unit, single, State.push, reading]

theorem lex_escaped_control (read : List Char) {c : Char} (control : c.toNat < 0x20) (cs : List Char) :
    lex (reading read)
        ('\\' :: 'u' :: '0' :: '0' :: hexDigit (c.toNat / 16) :: hexDigit (c.toNat % 16) :: cs) =
      lex (reading (c :: read)) cs := by
  have zero : hexValue? '0' = some 0 := by decide
  have high := hexValue?_hexDigit (c.toNat / 16) (by omega)
  have low := hexValue?_hexDigit (c.toNat % 16) (by omega)
  have value : ((0 * 16 + 0) * 16 + 0) * 16 + c.toNat / 16 = c.toNat / 16 := by omega
  have whole : c.toNat / 16 * 16 + c.toNat % 16 = c.toNat := by omega
  have single : ¬isLead c.toNat ∧ ¬isTrail c.toNat := by
    simp only [isLead, isTrail, Bool.and_eq_true, decide_eq_true_eq]
    omega
  rw [lex_cons rfl, lex_cons rfl]
  change lex (readingCode read 0 0) _ = _
  rw [lex_digit zero (by decide), lex_digit zero (by decide), lex_digit high (by decide), value]
  rw [lex_last_digit low (whole.symm ▸ single), whole, Char.ofNat_toNat]

theorem lex_escape (read : List Char) (c : Char) (cs : List Char) :
    lex (reading read) (escape c ++ cs) = lex (reading (c :: read)) cs := by
  unfold escape
  split
  · subst c; rfl
  split
  · subst c; rfl
  split
  · subst c; rfl
  split
  · subst c; rfl
  split
  · subst c; rfl
  split
  · subst c; rfl
  split
  · subst c; rfl
  split
  · rename_i control
    exact lex_escaped_control read control cs
  · rename_i notQuote notEscape _ _ _ _ _ printable
    exact lex_plain read notQuote notEscape printable cs

theorem lex_escaped (read cs rest : List Char) :
    lex (reading read) (cs.flatMap escape ++ '"' :: rest) =
      (.text (.ofList (read.reverse ++ cs)), rest) := by
  induction cs generalizing read with
  | nil => simp [lex, State.step, reading, State.plain, State.finish]
  | cons c cs ih =>
    rw [List.flatMap_cons, List.append_assoc, lex_escape, ih]
    simp

theorem lex_quote (s : String) (rest : List Char) :
    lex start (s.toList.flatMap escape ++ '"' :: rest) = (.text s, rest) := by
  have escaped := lex_escaped [] s.toList rest
  rwa [List.reverse_nil, List.nil_append, String.ofList_toList] at escaped

end Quotation
end HostSetup.Json
