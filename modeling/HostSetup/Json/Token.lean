import HostSetup.Json.Numeral

/-!
The words of a JSON text. A string is read by an automaton that also notes what can be passed over
but not read: an escape for half a surrogate pair.
-/
namespace HostSetup.Json

inductive Token
  | listOpen
  | listClose
  | recordOpen
  | recordClose
  | comma
  | colon
  | quotation (value : Draft)
  | leaf (value : Draft)
  deriving Repr, Inhabited

namespace Quotation

/-- What the characters of a string read last leave open. `code` has read some of four hexadecimal
digits; `lead` is the first half of a surrogate pair. -/
inductive Pending
  | none
  | escape
  | code (count value : Nat) (lead : Option Nat)
  | lead (value : Nat)
  | leadEscape (value : Nat)
  deriving Repr, DecidableEq

/-- The characters so far, latest first, and whether half a pair stood alone. -/
structure State where
  pending : Pending
  read : List Char
  lonely : Bool
  deriving Repr

def start : State := ⟨.none, [], false⟩

inductive Step
  | more (state : State)
  | stop (value : Draft)

/-- Half a pair cannot be read, whatever the string ends with. -/
def State.finish (s : State) (value : Draft) : Draft :=
  if s.lonely then .unreadable .malformed value else value

def State.push (s : State) (c : Char) : State := { s with pending := .none, read := c :: s.read }

def State.plain (s : State) (c : Char) : Step :=
  if c = '"' then .stop (s.finish (.text (.ofList s.read.reverse)))
  else if c = '\\' then .more { s with pending := .escape }
  else if c.toNat < 0x20 then .stop (s.finish (.broken .malformed))
  else .more (s.push c)

def State.escape (s : State) (c : Char) : Step :=
  match c with
  | '"' | '\\' | '/' => .more (s.push c)
  | 'b' => .more (s.push '\x08')
  | 'f' => .more (s.push '\x0c')
  | 'n' => .more (s.push '\n')
  | 'r' => .more (s.push '\r')
  | 't' => .more (s.push '\t')
  | 'u' => .more { s with pending := .code 0 0 Option.none }
  | _ => .stop (s.finish (.broken .malformed))

def isLead (n : Nat) : Bool := 0xd800 ≤ n && n < 0xdc00

def isTrail (n : Nat) : Bool := 0xdc00 ≤ n && n < 0xe000

def State.alone (s : State) : State := { s with pending := .none, lonely := true }

/-- All four digits of an escape are there. -/
def State.unit (s : State) (n : Nat) (lead : Option Nat) : State :=
  match lead with
  | some m =>
    if isTrail n then s.push (.ofNat ((m - 0xd800) * 0x400 + (n - 0xdc00) + 0x10000)) else s.alone
  | Option.none =>
    if isLead n then { s with pending := .lead n }
    else if isTrail n then s.alone
    else s.push (.ofNat n)

def hexValue? (c : Char) : Option Nat :=
  if '0' ≤ c ∧ c ≤ '9' then some (c.toNat - '0'.toNat)
  else if 'a' ≤ c ∧ c ≤ 'f' then some (c.toNat - 'a'.toNat + 10)
  else if 'A' ≤ c ∧ c ≤ 'F' then some (c.toNat - 'A'.toNat + 10)
  else Option.none

/-- Fewer than four bytes left of the text are not looked at. -/
def shortOf (read : Nat) (cs : List Char) : Bool :=
  (cs.take 4).foldl (fun bytes c => bytes + c.utf8Size) read < 4

def State.step (s : State) (c : Char) (rest : List Char) : Step :=
  match s.pending with
  | .none => s.plain c
  | .escape => s.escape c
  | .code count value lead =>
    match hexValue? c with
    | some h =>
      if count = 3 then .more (s.unit (value * 16 + h) lead)
      else .more { s with pending := .code (count + 1) (value * 16 + h) lead }
    | Option.none =>
      .stop (s.finish (.broken (if shortOf count (c :: rest) then .ended else .malformed)))
  | .lead n => if c = '\\' then .more { s with pending := .leadEscape n } else s.alone.plain c
  | .leadEscape n =>
    if c = 'u' then .more { s with pending := .code 0 0 (some n) } else s.alone.escape c

/-- The string, and what follows its closing quote. -/
def lex : State → List Char → Draft × List Char
  | s, [] => (s.finish (.broken .ended), [])
  | s, c :: cs =>
    match s.step c cs with
    | .more s => lex s cs
    | .stop value => (value, cs)

theorem length_lex_le (s : State) (cs : List Char) : (lex s cs).2.length ≤ cs.length := by
  induction cs generalizing s with
  | nil => simp [lex]
  | cons c cs ih =>
    simp only [lex]
    split
    · exact Nat.le_succ_of_le (ih _)
    · simp

end Quotation

/-- The rest of a word whose first letter is known. -/
def keyword (value : Draft) : List Char → List Char → Draft × List Char
  | [], cs => (value, cs)
  | _ :: _, [] => (.unreadable .ended (.broken .ended), [])
  | e :: es, c :: cs =>
    if c = e then keyword value es cs else (.unreadable .malformed (.broken .malformed), cs)

theorem length_keyword_le (value : Draft) (es cs : List Char) :
    (keyword value es cs).2.length ≤ cs.length := by
  induction es generalizing cs with
  | nil => simp [keyword]
  | cons e es ih =>
    cases cs with
    | nil => simp [keyword]
    | cons c cs =>
      simp only [keyword]
      split
      · exact Nat.le_succ_of_le (ih cs)
      · simp

namespace Numeral

theorem length_dropWhile_le (p : Char → Bool) (cs : List Char) :
    (cs.dropWhile p).length ≤ cs.length :=
  (List.dropWhile_suffix p).length_le

theorem length_lexExponent_le (negative : Bool) (whole fraction cs : List Char) :
    (lexExponent negative whole fraction cs).2.length ≤ cs.length := by
  cases cs with
  | nil => simp [lexExponent]
  | cons c cs =>
    have drop := length_dropWhile_le Char.isDigit
    simp only [lexExponent]
    split
    · simp only [List.length_cons]
      split
      all_goals
        split
        all_goals
          simp only [List.length_cons]
          grind
    · simp

theorem length_lexFraction_le (negative : Bool) (whole cs : List Char) :
    (lexFraction negative whole cs).2.length ≤ cs.length := by
  unfold lexFraction
  split
  · next cs =>
    have drop := length_dropWhile_le Char.isDigit cs
    simp only [List.length_cons]
    split
    · exact Nat.le_succ_of_le drop
    · exact Nat.le_succ_of_le (Nat.le_trans (length_lexExponent_le ..) drop)
  · exact length_lexExponent_le ..

theorem length_lexWhole_le (negative : Bool) (digits rest : List Char) :
    (lexWhole negative digits rest).2.length ≤ rest.length := by
  unfold lexWhole
  split
  · exact Nat.le_refl _
  · exact Nat.le_refl _
  · exact length_lexFraction_le ..

end Numeral

/-- The blanks of JSON are four characters. -/
def isSpace (c : Char) : Bool := c = ' ' || c = '\t' || c = '\n' || c = '\r'

def punctuation? (c : Char) : Option Token :=
  match c with
  | '[' => some .listOpen
  | ']' => some .listClose
  | '{' => some .recordOpen
  | '}' => some .recordClose
  | ',' => some .comma
  | ':' => some .colon
  | _ => none

/-- The word that a letter begins, and its other letters. -/
def keyword? (c : Char) : Option (Draft × List Char) :=
  match c with
  | 'n' => some (.null, ['u', 'l', 'l'])
  | 't' => some (.bool true, ['r', 'u', 'e'])
  | 'f' => some (.bool false, ['a', 'l', 's', 'e'])
  | _ => none

/-- A scalar other than a string that starts with `c`, and the rest of the text. -/
def lexScalar (c : Char) (cs : List Char) : Draft × List Char :=
  match keyword? c with
  | some (value, letters) => keyword value letters cs
  | none =>
    if c = '-' then
      Numeral.lexWhole true (cs.takeWhile Char.isDigit) (cs.dropWhile Char.isDigit)
    else if c.isDigit then
      Numeral.lexWhole false (c :: cs.takeWhile Char.isDigit) (cs.dropWhile Char.isDigit)
    else (.broken .malformed, cs)

theorem length_lexScalar_le (c : Char) (cs : List Char) :
    (lexScalar c cs).2.length ≤ cs.length := by
  have drop := Numeral.length_dropWhile_le Char.isDigit cs
  unfold lexScalar
  split
  · exact length_keyword_le ..
  · split
    · exact Nat.le_trans (Numeral.length_lexWhole_le ..) drop
    · split
      · exact Nat.le_trans (Numeral.length_lexWhole_le ..) drop
      · exact Nat.le_refl _

/-- The words of a text. -/
def lex : List Char → List Token
  | [] => []
  | c :: cs =>
    if isSpace c then lex cs
    else match punctuation? c with
      | some token => token :: lex cs
      | none =>
        if c = '"' then
          .quotation (Quotation.lex Quotation.start cs).1 :: lex (Quotation.lex Quotation.start cs).2
        else .leaf (lexScalar c cs).1 :: lex (lexScalar c cs).2
  termination_by cs => cs.length
  decreasing_by
    · simp
    · simp
    · exact Nat.lt_succ_of_le (Quotation.length_lex_le ..)
    · exact Nat.lt_succ_of_le (length_lexScalar_le c cs)

end HostSetup.Json
