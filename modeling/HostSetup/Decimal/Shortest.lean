/-!
The shortest decimal that reads back as a given double, and its layout. A double is
`mantissa * 2 ^ exponent`; every real between the midpoints to its two neighbours reads back as it.
-/
namespace HostSetup.Decimal

/-- A positive double. -/
structure Binary where
  mantissa : Nat
  exponent : Int
  /-- The lower neighbour is half as far away as the upper one. -/
  atPowerOfTwo : Bool

def Binary.ofBits (bits : UInt64) : Binary :=
  let fraction : Nat := bits.toNat % Nat.pow 2 52
  let biased : Nat := bits.toNat / Nat.pow 2 52 % Nat.pow 2 11
  if biased = 0 then ⟨fraction, -1074, false⟩
  else ⟨fraction + Nat.pow 2 52, (biased : Int) - 1075, fraction == 0 && 1 < biased⟩

/-- `base ^ exponent` as a quotient. -/
def power (base : Nat) (exponent : Int) : Nat × Nat :=
  if 0 ≤ exponent then (base.pow exponent.toNat, 1) else (1, base.pow (-exponent).toNat)

def digitCount (n : Nat) : Nat := if n = 0 then 0 else (Nat.toDigits 10 n).length

namespace Binary

/-- The value as a quotient. -/
def quotient (x : Binary) : Nat × Nat :=
  let (above, below) := power 2 x.exponent
  (x.mantissa * above, below)

/-- The exponent of the leading digit: the greatest power of ten that is not above the value. -/
def leading (x : Binary) : Int :=
  let (a, b) := x.quotient
  if b ≤ a then (digitCount (a / b) : Int) - 1 else -(digitCount ((b - 1) / a) : Int)

/-- `digits * 10 ^ place` lies between the midpoints; a midpoint itself reads as the neighbour
with the even mantissa. -/
def readsBack (x : Binary) (digits : Nat) (place : Int) : Bool :=
  let (twoAbove, twoBelow) := power 2 (x.exponent - 2)
  let (tenAbove, tenBelow) := power 10 place
  let candidate := digits * tenAbove * twoBelow
  let low := (4 * x.mantissa - if x.atPowerOfTwo then 1 else 2) * twoAbove * tenBelow
  let high := (4 * x.mantissa + 2) * twoAbove * tenBelow
  if x.mantissa % 2 = 0 then low ≤ candidate && candidate ≤ high
  else low < candidate && candidate < high

/-- Of the two points around the value whose last digit has the weight `10 ^ place`, the nearest
that reads back; of two equally near ones the even. -/
def onGrid? (x : Binary) (place : Int) : Option Nat :=
  let (a, b) := x.quotient
  let (above, below) := power 10 place
  let down := a * below / (b * above)
  let twice := 2 * (a * below) - (2 * down) * (b * above)
  let up := down + 1
  let nearUp := b * above < twice || (twice = b * above && down % 2 = 1)
  match x.readsBack down place && 0 < down, x.readsBack up place with
  | true, true => some (if nearUp then up else down)
  | true, false => some down
  | false, true => some up
  | false, false => none

def dropZeros : Nat → Nat → Int → Nat × Int
  | 0, digits, place => (digits, place)
  | fuel + 1, digits, place =>
    if digits % 10 = 0 ∧ digits ≠ 0 then dropZeros fuel (digits / 10) (place + 1) else (digits, place)

/-- Digits without trailing zeros, and the power of ten of the last one. Seventeen digits always
suffice; the exact quotient stands behind them. -/
def shortest (x : Binary) : Nat × Int :=
  let top := x.leading
  match (List.range 17).findSome? fun (n : Nat) =>
      (x.onGrid? (top - n)).map fun digits => (digits, top - (n : Int)) with
  | some (digits, place) => dropZeros 20 digits place
  | none => (x.quotient.1 / x.quotient.2, 0)

end Binary

/-- How decimals are laid out. -/
structure Layout where
  /-- Exponents of the leading digit that are written positionally. -/
  plainFrom : Int
  plainUpTo : Int

/-- The places of a positive decimal; an integral value keeps one zero behind the point, and an
exponent always has its sign. -/
def Layout.places (style : Layout) (digits : Nat) (place : Int) : List Char :=
  let ds := Nat.toDigits 10 digits
  let lead := place + ds.length - 1
  if style.plainFrom ≤ lead ∧ lead ≤ style.plainUpTo then
    if 0 ≤ place then ds ++ List.replicate place.toNat '0' ++ ['.', '0']
    else if 0 ≤ lead then ds.take (lead.toNat + 1) ++ '.' :: ds.drop (lead.toNat + 1)
    else '0' :: '.' :: List.replicate ((-lead).toNat - 1) '0' ++ ds
  else
    let fraction := if ds.length ≤ 1 then [] else '.' :: ds.drop 1
    ds.take 1 ++ fraction ++ 'e' :: (if lead < 0 then '-' else '+') :: Nat.toDigits 10 lead.natAbs

/-- A finite double. -/
def Layout.render (style : Layout) (bits : UInt64) : String :=
  let sign := if bits.toNat / Nat.pow 2 63 = 1 then ['-'] else []
  let x := Binary.ofBits bits
  if x.mantissa = 0 then .ofList (sign ++ ['0', '.', '0'])
  else
    let (digits, place) := x.shortest
    .ofList (sign ++ style.places digits place)

end HostSetup.Decimal
