import HostSetup.Proofs.Json.Numeral
import HostSetup.Proofs.Json.Quotation

/-!
Printed values have the words of the value, whether they are printed on one line or with an item a
line. Numbers are natural and of 64 bits.
-/
namespace HostSetup.Json

mutual

/-- Every number is natural and fits 64 bits. -/
def Exact : Json → Prop
  | .number (.natural n) => n < UInt64.size
  | .number _ => False
  | .list items => ExactItems items
  | .record members => ExactMembers members
  | _ => True

def ExactItems : List Json → Prop
  | [] => True
  | item :: rest => Exact item ∧ ExactItems rest

def ExactMembers : List (String × Json) → Prop
  | [] => True
  | (_, value) :: rest => Exact value ∧ ExactMembers rest

end

mutual

def tokens : Json → List Token
  | .null => [.leaf .null]
  | .bool b => [.leaf (.bool b)]
  | .number n => [.leaf (.number n)]
  | .text s => [.quotation (.text s)]
  | .list [] => [.listOpen, .listClose]
  | .list (item :: rest) => .listOpen :: (tokens item ++ itemTokens rest)
  | .record [] => [.recordOpen, .recordClose]
  | .record ((name, value) :: rest) =>
    .recordOpen :: .quotation (.text name) :: .colon :: (tokens value ++ memberTokens rest)

/-- The items after the first, to the closing bracket. -/
def itemTokens : List Json → List Token
  | [] => [.listClose]
  | item :: rest => .comma :: (tokens item ++ itemTokens rest)

def memberTokens : List (String × Json) → List Token
  | [] => [.recordClose]
  | (name, value) :: rest =>
    .comma :: .quotation (.text name) :: .colon :: (tokens value ++ memberTokens rest)

end

theorem lex_space {c : Char} (space : isSpace c = true) (cs : List Char) : lex (c :: cs) = lex cs := by
  rw [lex, if_pos space]

theorem lex_mark {c : Char} {token : Token} (mark : punctuation? c = some token) (cs : List Char) :
    lex (c :: cs) = token :: lex cs := by
  have visible : ¬isSpace c = true := by
    intro space
    simp only [isSpace, Bool.or_eq_true, decide_eq_true_eq] at space
    rcases space with ((rfl | rfl) | rfl) | rfl <;> contradiction
  rw [lex, if_neg visible, mark]

theorem lex_quoted (s : String) (rest : List Char) :
    lex (quote s ++ rest) = .quotation (.text s) :: lex rest := by
  have whole := Quotation.lex_quote s rest
  have visible : ¬isSpace '"' = true := by decide
  have noMark : punctuation? '"' = none := by decide
  rw [quote, List.cons_append, List.cons_append, List.append_assoc, List.singleton_append, lex,
    if_neg visible, noMark]
  simp only [if_true, whole]

theorem lex_keyword {c : Char} {value : Draft} {letters : List Char}
    (word : keyword? c = some (value, letters)) (rest : List Char) :
    lex (c :: (letters ++ rest)) = .leaf value :: lex rest := by
  have read : keyword value letters (letters ++ rest) = (value, rest) := by
    clear word
    induction letters with
    | nil => rfl
    | cons letter letters ih => simpa [keyword] using ih
  have begins : c = 'n' ∨ c = 't' ∨ c = 'f' := by
    unfold keyword? at word
    split at word <;> simp_all
  have scalar : lexScalar c (letters ++ rest) = (value, rest) := by
    rw [lexScalar, word]
    exact read
  rw [lex]
  rcases begins with rfl | rfl | rfl <;> simp [isSpace, punctuation?, scalar]

theorem lex_newLine (level : Nat) (cs : List Char) : lex (newLine level ++ cs) = lex cs := by
  have blanks (n : Nat) : lex (List.replicate n ' ' ++ cs) = lex cs := by
    induction n with
    | zero => rfl
    | succ n ih => rw [List.replicate_succ, List.cons_append, lex_space (by decide), ih]
  rw [newLine, List.cons_append, lex_space (by decide), blanks]

theorem ends_compactItems (items : List Json) (rest : List Char) :
    Numeral.Ends (compactItems items ++ rest) := by
  cases items <;> exact Numeral.ends_cons (by decide)

theorem ends_compactMembers (members : List (String × Json)) (rest : List Char) :
    Numeral.Ends (compactMembers members ++ rest) := by
  cases members <;> exact Numeral.ends_cons (by decide)

mutual

theorem lex_compactChars (j : Json) (exact : j.Exact) {rest : List Char} (ends : Numeral.Ends rest) :
    lex (compactChars j ++ rest) = tokens j ++ lex rest := by
  match j with
  | .null => exact lex_keyword rfl rest
  | .bool true => exact lex_keyword rfl rest
  | .bool false => exact lex_keyword rfl rest
  | .number (.natural n) =>
    rw [compactChars, Number.render, String.toList_ofList]
    exact Numeral.lex_natural exact ends
  | .text s => exact lex_quoted s rest
  | .list [] =>
    simp only [compactChars, tokens, List.cons_append, List.nil_append]
    rw [lex_mark rfl, lex_mark rfl]
  | .list (item :: items) =>
    obtain ⟨first, others⟩ := exact
    simp only [compactChars, tokens, List.cons_append, List.append_assoc]
    rw [lex_mark rfl, lex_compactChars item first (ends_compactItems _ _),
      lex_compactItems items others]
  | .record [] =>
    simp only [compactChars, tokens, List.cons_append, List.nil_append]
    rw [lex_mark rfl, lex_mark rfl]
  | .record ((name, value) :: members) =>
    obtain ⟨first, others⟩ := exact
    simp only [compactChars, tokens, List.cons_append, List.append_assoc]
    rw [lex_mark rfl, lex_quoted, lex_mark rfl, lex_compactChars value first (ends_compactMembers _ _),
      lex_compactMembers members others]

theorem lex_compactItems (items : List Json) (exact : ExactItems items) (rest : List Char) :
    lex (compactItems items ++ rest) = itemTokens items ++ lex rest := by
  match items with
  | [] => exact lex_mark rfl rest
  | item :: items =>
    obtain ⟨first, others⟩ := exact
    simp only [compactItems, itemTokens, List.cons_append, List.append_assoc]
    rw [lex_mark rfl, lex_compactChars item first (ends_compactItems _ _),
      lex_compactItems items others]

theorem lex_compactMembers (members : List (String × Json)) (exact : ExactMembers members)
    (rest : List Char) : lex (compactMembers members ++ rest) = memberTokens members ++ lex rest := by
  match members with
  | [] => exact lex_mark rfl rest
  | (name, value) :: members =>
    obtain ⟨first, others⟩ := exact
    simp only [compactMembers, memberTokens, List.cons_append, List.append_assoc]
    rw [lex_mark rfl, lex_quoted, lex_mark rfl, lex_compactChars value first (ends_compactMembers _ _),
      lex_compactMembers members others]

end

theorem lex_compact {j : Json} (exact : j.Exact) : lex j.compact.toList = tokens j := by
  have whole := lex_compactChars j exact Numeral.ends_nil
  rwa [List.append_nil, lex, List.append_nil, ← String.toList_ofList (l := compactChars j)] at whole

theorem ends_prettyItems (level : Nat) (items : List Json) (rest : List Char) :
    Numeral.Ends (prettyItems level items ++ rest) := by
  cases items <;> exact Numeral.ends_cons (by decide)

theorem ends_prettyMembers (level : Nat) (members : List (String × Json)) (rest : List Char) :
    Numeral.Ends (prettyMembers level members ++ rest) := by
  cases members <;> exact Numeral.ends_cons (by decide)

mutual

theorem lex_prettyChars (level : Nat) (j : Json) (exact : j.Exact) {rest : List Char}
    (ends : Numeral.Ends rest) : lex (prettyChars level j ++ rest) = tokens j ++ lex rest := by
  match j with
  | .null => exact lex_keyword rfl rest
  | .bool true => exact lex_keyword rfl rest
  | .bool false => exact lex_keyword rfl rest
  | .number (.natural n) =>
    rw [prettyChars, Number.render, String.toList_ofList]
    exact Numeral.lex_natural exact ends
  | .text s => exact lex_quoted s rest
  | .list [] =>
    simp only [prettyChars, tokens, List.cons_append, List.nil_append]
    rw [lex_mark rfl, lex_mark rfl]
  | .list (item :: items) =>
    obtain ⟨first, others⟩ := exact
    simp only [prettyChars, tokens, List.cons_append, List.append_assoc]
    rw [lex_mark rfl, lex_newLine, lex_prettyChars _ item first (ends_prettyItems _ _ _),
      lex_prettyItems level items others]
  | .record [] =>
    simp only [prettyChars, tokens, List.cons_append, List.nil_append]
    rw [lex_mark rfl, lex_mark rfl]
  | .record ((name, value) :: members) =>
    obtain ⟨first, others⟩ := exact
    simp only [prettyChars, tokens, List.cons_append, List.append_assoc]
    rw [lex_mark rfl, lex_newLine, lex_quoted, lex_mark rfl, lex_space rfl,
      lex_prettyChars _ value first (ends_prettyMembers _ _ _), lex_prettyMembers level members others]

theorem lex_prettyItems (level : Nat) (items : List Json) (exact : ExactItems items)
    (rest : List Char) : lex (prettyItems level items ++ rest) = itemTokens items ++ lex rest := by
  match items with
  | [] =>
    simp only [prettyItems, itemTokens, List.append_assoc]
    rw [lex_newLine, List.cons_append, lex_mark rfl]
    rfl
  | item :: items =>
    obtain ⟨first, others⟩ := exact
    simp only [prettyItems, itemTokens, List.cons_append, List.append_assoc]
    rw [lex_mark rfl, lex_newLine, lex_prettyChars _ item first (ends_prettyItems _ _ _),
      lex_prettyItems level items others]

theorem lex_prettyMembers (level : Nat) (members : List (String × Json))
    (exact : ExactMembers members) (rest : List Char) :
    lex (prettyMembers level members ++ rest) = memberTokens members ++ lex rest := by
  match members with
  | [] =>
    simp only [prettyMembers, memberTokens, List.append_assoc]
    rw [lex_newLine, List.cons_append, lex_mark rfl]
    rfl
  | (name, value) :: members =>
    obtain ⟨first, others⟩ := exact
    simp only [prettyMembers, memberTokens, List.cons_append, List.append_assoc]
    rw [lex_mark rfl, lex_newLine, lex_quoted, lex_mark rfl, lex_space rfl,
      lex_prettyChars _ value first (ends_prettyMembers _ _ _), lex_prettyMembers level members others]

end

theorem lex_pretty {j : Json} (exact : j.Exact) : lex j.pretty.toList = tokens j := by
  have whole := lex_prettyChars 0 j exact Numeral.ends_nil
  rwa [List.append_nil, lex, List.append_nil, ← String.toList_ofList (l := prettyChars 0 j)] at whole

end HostSetup.Json
