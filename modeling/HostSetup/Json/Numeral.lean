import HostSetup.Json.Draft

/-!
Numerals. The value is taken from at most the leading digits that fit 64 bits, scaled once by a
power of ten; integers that fit 64 bits are exact.
-/
namespace HostSetup.Json
namespace Numeral

/-- A numeral by its parts; the exponent comes with its sign. -/
structure Parts where
  negative : Bool
  whole : List Char
  fraction : List Char
  exponent : Option (Bool × List Char)
  deriving Repr

def digit (c : Char) : Nat := c.toNat - '0'.toNat

/-- Digits are taken in as long as the result fits 64 bits; how many stay behind. -/
def accumulate (significand : Nat) : List Char → Nat × Nat
  | [] => (significand, 0)
  | c :: cs =>
    let next := significand * 10 + digit c
    if next < UInt64.size then accumulate next cs else (significand, cs.length + 1)

/-- `significand * 10 ^ place`, if it is not beyond every double. -/
def scale (significand : Float) (place : Int) : Option Float :=
  if place.natAbs ≤ 308 then
    if 0 ≤ place then
      let scaled := significand * Float.ofScientific 1 false place.toNat
      if scaled.isInf then none else some scaled
    else some (significand / Float.ofScientific 1 false (-place).toNat)
  else if significand == 0 then some significand
  else if 0 ≤ place then none
  else scale (significand / Float.ofScientific 1 false 308) (place + 308)
  termination_by place.natAbs
  decreasing_by omega

/-- Exponents from `2 ^ 31` on leave nothing of a number, or too much. -/
def real (negative : Bool) (significand : Nat) (place : Int) (exponent : Option (Bool × List Char)) :
    Option UInt64 :=
  let magnitude : Option Float := match exponent with
    | none => scale significand.toUInt64.toFloat place
    | some (lowers, digits) =>
      let size := digits.foldl (fun n c => n * 10 + digit c) 0
      if size < Nat.pow 2 31 then
        scale significand.toUInt64.toFloat (place + if lowers then -(size : Int) else size)
      else if significand ≠ 0 ∧ ¬lowers then none
      else some 0
  magnitude.map fun x => (if negative then -x else x).toBits

def Parts.number? (p : Parts) : Option Number :=
  let (whole, behind) := accumulate 0 p.whole
  if p.fraction.isEmpty ∧ p.exponent.isNone ∧ behind = 0 then
    if ¬p.negative then some (.natural whole)
    else if 0 < whole ∧ whole ≤ Nat.pow 2 63 then some (.negative whole)
    else some (.real (-whole.toUInt64.toFloat).toBits)
  else
    let (significand, unread) := accumulate whole p.fraction
    let place : Int := (behind : Int) - ((p.fraction.length - unread : Nat) : Int)
    (real p.negative significand place p.exponent).map .real

/-- A numeral that breaks off can neither be read nor passed over. -/
def broken (rest : List Char) : Draft :=
  .unreadable (if rest.isEmpty then .ended else .malformed) (.broken .malformed)

/-- A number too large for a double can only be passed over. -/
def finish (p : Parts) : Draft :=
  match p.number? with
  | some n => .number n
  | none => .unreadable .malformed (.number (.natural 0))

def lexExponent (negative : Bool) (whole fraction : List Char) : List Char → Draft × List Char
  | c :: cs =>
    if c = 'e' ∨ c = 'E' then
      let (lowers, cs) := match cs with
        | '-' :: rest => (true, rest)
        | '+' :: rest => (false, rest)
        | rest => (false, rest)
      let digits := cs.takeWhile Char.isDigit
      let rest := cs.dropWhile Char.isDigit
      if digits.isEmpty then (broken rest, rest)
      else (finish ⟨negative, whole, fraction, some (lowers, digits)⟩, rest)
    else (finish ⟨negative, whole, fraction, none⟩, c :: cs)
  | [] => (finish ⟨negative, whole, fraction, none⟩, [])

def lexFraction (negative : Bool) (whole : List Char) : List Char → Draft × List Char
  | '.' :: cs =>
    let digits := cs.takeWhile Char.isDigit
    let rest := cs.dropWhile Char.isDigit
    if digits.isEmpty then (broken rest, rest) else lexExponent negative whole digits rest
  | cs => lexExponent negative whole [] cs

/-- `digits` stand before the point; a leading zero stands alone. -/
def lexWhole (negative : Bool) (digits rest : List Char) : Draft × List Char :=
  match digits with
  | [] => (broken rest, rest)
  | '0' :: _ :: _ => (.unreadable .malformed (.broken .malformed), rest)
  | _ => lexFraction negative digits rest

end Numeral
end HostSetup.Json
