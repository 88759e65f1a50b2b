import HostSetup.Decimal.Shortest
import HostSetup.NameMap

/-!
JSON values.
-/
namespace HostSetup

/-- `natural` holds what fits 64 bits, `negative n` is `-n` down to `-2 ^ 63`, and every other
number is the double with these bits. -/
inductive Json.Number
  | natural (value : Nat)
  | negative (size : Nat)
  | real (bits : UInt64)
  deriving DecidableEq, Repr, Inhabited

/-- Members of a record keep the order in which they were written. -/
inductive Json
  | null
  | bool (value : Bool)
  | number (value : Json.Number)
  | text (value : String)
  | list (items : List Json)
  | record (members : List (String × Json))
  deriving Repr, Inhabited

namespace Json

/-- Doubles are positional from `1e-5` up to `1e15`. -/
def realLayout : Decimal.Layout := ⟨-5, 15⟩

def Number.render : Number → String
  | .natural n => .ofList (Nat.toDigits 10 n)
  | .negative n => .ofList ('-' :: Nat.toDigits 10 n)
  | .real bits => realLayout.render bits

def natural (n : Nat) : Json := .number (.natural n)

def texts (items : List String) : Json := .list (items.map .text)

/-- Present members only. -/
def recordOf (members : List (String × Option Json)) : Json :=
  .record (members.filterMap fun (name, value?) => value?.map (name, ·))

def text? : Json → Option String
  | .text s => some s
  | _ => none

end Json
end HostSetup
