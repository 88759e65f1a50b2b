import HostSetup.Action.Basic
import HostSetup.Json.Decode

/-!
Actions in setup files. A guard names its type among its fields, wherever it stands there.
-/
namespace HostSetup
open Json (Draft Problem Source Shape)

def Family.codec : List (String × Family) := Family.all.map fun f => (f.name, f)

def ActionKind.codec : List (String × ActionKind) := ActionKind.all.map fun k => (k.name, k)

def ActionOption.codec : List (String × ActionOption) := ActionOption.all.map fun o => (o.name, o)

def Outcome.codec : List (String × Outcome) := Outcome.all.map fun o => (o.name, o)

namespace Payload

def toJson : Payload → Json
  | .one s => .text s
  | .many items => Json.texts items

/-- The value is read whole before it is looked at. -/
def decode (d : Draft) : Except Problem Payload := do
  let value ← Draft.lift d.json
  match value with
  | .text s => return .one s
  | .list items =>
    match items.mapM Json.text? with
    | some texts => return .many texts
    | none => .error (.noVariantFits "Payload")
  | _ => .error (.noVariantFits "Payload")

end Payload

namespace Guard

inductive Tag
  | distroIs
  | distroIsNot
  | releaseIs
  | releaseIsNot
  | familyIs
  deriving DecidableEq, Repr

namespace Tag

def all : List Tag := [.distroIs, .distroIsNot, .releaseIs, .releaseIsNot, .familyIs]

def name : Tag → String
  | .distroIs => "distro-is"
  | .distroIsNot => "distro-is-not"
  | .releaseIs => "release-is"
  | .releaseIsNot => "release-is-not"
  | .familyIs => "family-is"

/-- The name in messages. -/
def variant : Tag → String
  | .distroIs => "Guard::DistroIs"
  | .distroIsNot => "Guard::DistroIsNot"
  | .releaseIs => "Guard::ReleaseIs"
  | .releaseIsNot => "Guard::ReleaseIsNot"
  | .familyIs => "Guard::FamilyIs"

def fields : Tag → List String
  | .distroIs | .distroIsNot => ["distro"]
  | .releaseIs | .releaseIsNot => ["distro", "version"]
  | .familyIs => ["family"]

def codec : List (String × Tag) := all.map fun t => (t.name, t)

end Tag

def tag : Guard → Tag
  | .distroIs _ => .distroIs
  | .distroIsNot _ => .distroIsNot
  | .releaseIs .. => .releaseIs
  | .releaseIsNot .. => .releaseIsNot
  | .familyIs _ => .familyIs

def toJson (g : Guard) : Json :=
  .record (("type", .text g.tag.name) :: match g with
    | .distroIs distro | .distroIsNot distro => [("distro", .text distro)]
    | .releaseIs distro version | .releaseIsNot distro version =>
      [("distro", .text distro), ("version", .text version)]
    | .familyIs family => [("family", .text family.name)])

/-- The fields of all guards; each has those of its tag. -/
structure Parts where
  distro : Option String := none
  version : Option String := none
  family : Option Family := none

def Parts.put (parts : Parts) (name : String) (d : Draft) : Except Problem Parts :=
  if name = "distro" then do
    return { parts with distro := ← Json.once name parts.distro d.string }
  else if name = "version" then do
    return { parts with version := ← Json.once name parts.version d.string }
  else do
    return { parts with family := ← Json.once name parts.family (d.variant .aside Family.codec) }

def Parts.finish (parts : Parts) : Tag → Except String Guard
  | .distroIs => .distroIs <$> Json.need "distro" parts.distro
  | .distroIsNot => .distroIsNot <$> Json.need "distro" parts.distro
  | .releaseIs => do return .releaseIs (← Json.need "distro" parts.distro) (← Json.need "version" parts.version)
  | .releaseIsNot => do
    return .releaseIsNot (← Json.need "distro" parts.distro) (← Json.need "version" parts.version)
  | .familyIs => .familyIs <$> Json.need "family" parts.family

def shape (t : Tag) : Shape Parts Guard where
  wanted := .variantOf t.variant t.fields.length
  whole := .variantOf t.variant t.fields.length
  fields := t.fields
  start := {}
  put := Parts.put
  finish parts := parts.finish t

def decodeTag (d : Draft) : Except Problem Tag := d.variantName Tag.codec

/-- The tag, and the other members in their order, read whole. -/
def splitMembers (tag : Option Tag) (others : List (String × Json)) :
    List (Draft × Draft) → Except Problem (Option Tag × List (String × Json))
  | [] => .ok (tag, others.reverse)
  | (key, value) :: rest => do
    let name ← Draft.lift key.key
    if name = "type" then do
      let tag ← Json.once name tag (decodeTag value)
      splitMembers tag others rest
    else do
      let value ← Draft.lift value.json
      splitMembers tag ((name, value) :: others) rest

def decode : Draft → Except Problem Guard
  | .record members close => do
    let (tag?, others) ← splitMembers none [] members
    Draft.lift (Json.Fault.check close)
    match tag? with
    | some t => (shape t).decode .aside (.record (Draft.ofMembers others) none)
    | none => .error (.missingField "type")
  | .list [] close => do
    Draft.lift (Json.Fault.check close)
    .error (.missingField "type")
  | .list (first :: rest) close => do
    let t ← decodeTag first
    let fields ← Draft.lift (Draft.jsonItems rest)
    Draft.lift (Json.Fault.check close)
    (shape t).decode .aside (.list (Draft.ofItems fields) none)
  | other => other.refuse (.tagged "Guard")

end Guard

namespace Action

def toJson (a : Action) : Json :=
  Json.recordOf [
    ("kind", some (.text a.kind.name)),
    ("payload", some a.payload.toJson),
    ("options", if a.options.toList.isEmpty then none
      else some (Json.texts (a.options.toList.map (·.name)))),
    ("guard", a.guard.map (·.toJson))]

structure Parts where
  kind : Option ActionKind := none
  payload : Option Payload := none
  options : Option ActionOptions := none
  guard : Option (Option Guard) := none

def Parts.put (source : Source) (parts : Parts) (name : String) (d : Draft) : Except Problem Parts :=
  if name = "kind" then do
    return { parts with kind := ← Json.once name parts.kind (d.variant source ActionKind.codec) }
  else if name = "payload" then do
    return { parts with payload := ← Json.once name parts.payload (Payload.decode d) }
  else if name = "options" then do
    let options := ActionOptions.ofList <$> d.items (·.variant source ActionOption.codec)
    return { parts with options := ← Json.once name parts.options options }
  else do
    return { parts with guard := ← Json.once name parts.guard (d.optional Guard.decode) }

def Parts.finish (parts : Parts) : Except String Action := do
  return {
    kind := ← Json.need "kind" parts.kind
    payload := ← Json.need "payload" parts.payload
    options := parts.options.getD {}
    guard := parts.guard.getD none }

def shape (source : Source) : Shape Parts Action where
  wanted := .struct "Action"
  whole := .structOf "Action" 4
  fields := ["kind", "payload", "options", "guard"]
  start := {}
  put := Parts.put source
  finish := Parts.finish

def decode (source : Source) (d : Draft) : Except Problem Action := (shape source).decode source d

end Action
end HostSetup
