import HostSetup.Text.LetterTable

/-!
Lower case of a text. Capital sigma has two small forms: the one that closes a word is chosen when
the letter before it, and no letter after it, belongs to the same word.
-/
namespace HostSetup.Text
namespace Letter

def isCased (c : Char) : Bool := cased.holds c

def isIgnorable (c : Char) : Bool := caseIgnorable.holds c

/-- The image of a code point under the first run that holds it. -/
def imageOf? (n : Nat) : List (Nat × Nat × Nat × Nat) → Option Nat
  | [] => none
  | (first, last, step, image) :: rest =>
    if n < first then none
    else if n ≤ last ∧ (n - first) % step = 0 then some (image + (n - first))
    else imageOf? n rest

/-- A single character; only the dotted capital I has an image of two. -/
def lower (c : Char) : List Char :=
  if c = '\u0130' then ['i', '\u0307']
  else match imageOf? c.toNat lowerRuns with
    | some n => [.ofNat n]
    | none => [c]

/-- The nearest character that is not passed over has a case. -/
def meetsCased (cs : List Char) : Bool :=
  match cs.dropWhile isIgnorable with
  | [] => false
  | c :: _ => isCased c

/-- `before` holds the characters already passed, latest first. -/
def lowerFrom (before : List Char) : List Char → List Char
  | [] => []
  | c :: cs =>
    (if c = 'Σ' then [if meetsCased before && !meetsCased cs then 'ς' else 'σ'] else lower c)
      ++ lowerFrom (c :: before) cs

end Letter

def lowercase (s : String) : String := .ofList (Letter.lowerFrom [] s.toList)

example : lowercase "ΑΣ Σ" = "ας σ" := by cbv
example : lowercase "İd" = "i̇d" := by cbv

end HostSetup.Text
