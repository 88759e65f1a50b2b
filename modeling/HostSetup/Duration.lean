/-!
Spans of time, counted in nanoseconds, and their notation in the largest fitting unit.
-/
namespace HostSetup

structure Duration where
  nanoseconds : Nat
  deriving DecidableEq, Repr, Inhabited

namespace Duration

def ofSeconds (secs : Nat) : Duration := ⟨secs * 1000000000⟩

def ofMilliseconds (millis : Nat) : Duration := ⟨millis * 1000000⟩

/-- The decimal places of `part / 10 ^ places`, without the zeros at the end. -/
def fraction (part places : Nat) : List Char :=
  let digits := Nat.toDigits 10 part
  let padded := List.replicate (places - digits.length) '0' ++ digits
  match (padded.reverse.dropWhile (· == '0')).reverse with
  | [] => []
  | shown => '.' :: shown

/-- A count of units, and the part of a unit behind the point; `places` digits tell the parts of a
unit apart. -/
def inUnit (d : Duration) (unit places : Nat) (mark : String) : String :=
  let part := d.nanoseconds % unit
  .ofList (Nat.toDigits 10 (d.nanoseconds / unit) ++ if part = 0 then [] else fraction part places) ++ mark

/-- Seconds if there is a whole one, else milliseconds, microseconds or nanoseconds. -/
def render (d : Duration) : String :=
  if 1000000000 ≤ d.nanoseconds then d.inUnit 1000000000 9 "s"
  else if 1000000 ≤ d.nanoseconds then d.inUnit 1000000 6 "ms"
  else if 1000 ≤ d.nanoseconds then d.inUnit 1000 3 "µs"
  else d.inUnit 1 0 "ns"

example : (Duration.mk 1010000000).render = "1.01s" := by cbv
example : (Duration.mk 250000000).render = "250ms" := by cbv
example : (Duration.mk 1500).render = "1.5µs" := by cbv
example : (Duration.mk 0).render = "0ns" := by cbv

end Duration
end HostSetup
