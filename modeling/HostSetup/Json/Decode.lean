import HostSetup.Json.Document
import HostSetup.Text.Quoted

/-!
Reading values of a given shape. The first trouble in the order of the text is reported: a broken
place, or a value that does not fit.
-/
namespace HostSetup.Json

/-- What stands where something else is wanted. -/
inductive Found
  | null
  | bool (value : Bool)
  | number (value : Number)
  | text (value : String)
  | sequence
  | map
  deriving DecidableEq, Repr

inductive Expected
  | string
  | boolean
  | unsigned
  | sequence
  | map
  | unit
  | variantName
  | stringOrMap
  | singleKey
  | struct (name : String)
  | structOf (name : String) (size : Nat)
  | tagged (name : String)
  | variantOf (name : String) (size : Nat)
  | inSequence (size : Nat)
  | fewer
  deriving DecidableEq, Repr

/-- Why a text has no value of the wanted shape. -/
inductive Problem
  | fault (fault : Fault)
  | wrongType (found : Found) (expected : Expected)
  | wrongValue (found : Found) (expected : Expected)
  | wrongLength (found : Nat) (expected : Expected)
  | unknownVariant (name : String) (known : List String)
  | missingField (name : String)
  | duplicateField (name : String)
  | noVariantFits (name : String)
  deriving DecidableEq, Repr

def Found.render : Found → String
  | .null => "null"
  | .bool true => "boolean `true`"
  | .bool false => "boolean `false`"
  | .number (.real bits) => "floating point `" ++ realLayout.render bits ++ "`"
  | .number n => "integer `" ++ n.render ++ "`"
  | .text s => "string " ++ Text.quoted s
  | .sequence => "sequence"
  | .map => "map"

def elements (n : Nat) : String := if n = 1 then "1 element" else toString n ++ " elements"

def Expected.render : Expected → String
  | .string => "a string"
  | .boolean => "a boolean"
  | .unsigned => "u64"
  | .sequence => "a sequence"
  | .map => "a map"
  | .unit => "unit"
  | .variantName => "variant identifier"
  | .stringOrMap => "string or map"
  | .singleKey => "map with a single key"
  | .struct name => "struct " ++ name
  | .structOf name size => "struct " ++ name ++ " with " ++ elements size
  | .tagged name => "internally tagged enum " ++ name
  | .variantOf name size => "struct variant " ++ name ++ " with " ++ elements size
  | .inSequence size => elements size ++ " in sequence"
  | .fewer => "fewer elements in array"

/-- Alternatives in backticks. -/
def alternatives (names : List String) : String :=
  let ticked := names.map fun name => "`" ++ name ++ "`"
  match ticked with
  | [] => "there are no variants"
  | [one] => "expected " ++ one
  | [one, two] => "expected " ++ one ++ " or " ++ two
  | _ => "expected one of " ++ ", ".intercalate ticked

/-- The message about a value that does not fit; a broken text has none. -/
def Problem.message : Problem → String
  | .fault _ => ""
  | .wrongType found expected => "invalid type: " ++ found.render ++ ", expected " ++ expected.render
  | .wrongValue found expected => "invalid value: " ++ found.render ++ ", expected " ++ expected.render
  | .wrongLength found expected => "invalid length " ++ toString found ++ ", expected " ++ expected.render
  | .unknownVariant name known => "unknown variant `" ++ name ++ "`, " ++ alternatives known
  | .missingField name => "missing field `" ++ name ++ "`"
  | .duplicateField name => "duplicate field `" ++ name ++ "`"
  | .noVariantFits name => "data did not match any variant of untagged enum " ++ name

/-- Where a value comes from: a text that is still being read, a value that was handed over, or one
that was set aside until the tag beside it was known. -/
inductive Source
  | arriving
  | handed
  | aside
  deriving DecidableEq, Repr

namespace Draft

def lift (result : Except Fault α) : Except Problem α := result.mapError .fault

def found : Draft → Except Problem Found
  | .null => .ok .null
  | .bool b => .ok (.bool b)
  | .number n => .ok (.number n)
  | .text s => .ok (.text s)
  | .list .. => .ok .sequence
  | .record .. => .ok .map
  | .broken fault | .unreadable fault _ => .error (.fault fault)
  | .misplaced _ => .error (.fault .malformed)

/-- Refuses a value that has another shape than the expected one. -/
def refuse (expected : Expected) (d : Draft) : Except Problem α := do
  let found ← d.found
  .error (.wrongType found expected)

def string : Draft → Except Problem String
  | .text s => .ok s
  | other => other.refuse .string

def boolean : Draft → Except Problem Bool
  | .bool b => .ok b
  | other => other.refuse .boolean

/-- A whole number below `2 ^ 64`. -/
def unsigned : Draft → Except Problem UInt64
  | .number (.natural n) => .ok (.ofNat n)
  | .number (.negative n) => .error (.wrongValue (.number (.negative n)) .unsigned)
  | other => other.refuse .unsigned

def optional (value : Draft → Except Problem α) : Draft → Except Problem (Option α)
  | .null => .ok none
  | other => some <$> value other

def items (item : Draft → Except Problem α) : Draft → Except Problem (List α)
  | .list drafts close => do
    let values ← drafts.mapM item
    lift (Fault.check close)
    return values
  | other => other.refuse .sequence

/-- Of entries with the same name the last one stays. -/
def addEntries (value : Draft → Except Problem α) (held : NameMap α) :
    List (Draft × Draft) → Except Problem (NameMap α)
  | [] => .ok held
  | (key, draft) :: rest => do
    let name ← lift key.key
    let entry ← value draft
    addEntries value (held.insert name entry) rest

def entries (value : Draft → Except Problem α) : Draft → Except Problem (NameMap α)
  | .record members close => do
    let values ← addEntries value .empty members
    lift (Fault.check close)
    return values
  | other => other.refuse .map

/-- A name out of a list, with what it stands for. -/
def named (known : List (String × α)) (name : String) : Except Problem α :=
  match known.find? (·.1 == name) with
  | some (_, value) => .ok value
  | none => .error (.unknownVariant name (known.map (·.1)))

/-- The name alone, or before a null: the one member of a record. -/
def variantName (known : List (String × α)) : Draft → Except Problem α
  | .text s => named known s
  | .misplaced value => value.refuse .variantName
  | other => other.refuse .variantName

/-- A null; for a value that was set aside a record without members does as well. -/
def unit (source : Source) : Draft → Except Problem Unit
  | .null => .ok ()
  | .record [] none => if source = .aside then .ok () else .error (.wrongType .map .unit)
  | other => other.refuse .unit

/-- One of a list of names. While a text is still being read, what cannot begin one is malformed. -/
def variant (source : Source) (known : List (String × α)) : Draft → Except Problem α
  | .text s => named known s
  | .record members close =>
    match source, members with
    | .arriving, [] => .error (.fault (close.getD .malformed))
    | .arriving, (key, value) :: more => do
      let result ← variantName known key
      unit source value
      if more.isEmpty then lift (Fault.check close) else .error (.fault .malformed)
      return result
    | _, [(key, value)] => do
      let result ← variantName known key
      unit source value
      return result
    | _, _ => .error (.wrongValue .map .singleKey)
  | .broken fault => .error (.fault fault)
  | other =>
    match source with
    | .arriving => .error (.fault .malformed)
    | _ => other.refuse .stringOrMap

end Draft

/-- How a record is put together from its fields, in the order of their declaration. -/
structure Shape (σ α : Type) where
  wanted : Expected
  /-- Wanted of a list that ends too early. -/
  whole : Expected
  fields : List String
  start : σ
  put : σ → String → Draft → Except Problem σ
  /-- The value, or the first field that is needed and missing. -/
  finish : σ → Except String α

namespace Shape

variable {σ α : Type} (shape : Shape σ α)

/-- Members in any order; those with other names are passed over. -/
def member (partly : σ) (key value : Draft) : Except Problem σ := do
  let name ← Draft.lift key.key
  if name ∈ shape.fields then shape.put partly name value
  else do
    Draft.lift value.skip
    return partly

def members (partly : σ) : List (Draft × Draft) → Except Problem σ
  | [] => .ok partly
  | (key, value) :: rest => do
    let partly ← shape.member partly key value
    members partly rest

/-- The fields by their place; what is left when all have a value. -/
def places (partly : σ) : List String → List Draft → Except Problem (σ × List Draft)
  | name :: names, item :: items => do
    let partly ← shape.put partly name item
    places partly names items
  | _, items => .ok (partly, items)

def decode (source : Source) : Draft → Except Problem α
  | .record drafts close => do
    let partly ← shape.members shape.start drafts
    Draft.lift (Fault.check close)
    (shape.finish partly).mapError .missingField
  | .list drafts close => do
    let (partly, left) ← shape.places shape.start shape.fields drafts
    if drafts.length < shape.fields.length then Draft.lift (Fault.check close)
    let value ← (shape.finish partly).mapError fun _ => .wrongLength drafts.length shape.whole
    if left.isEmpty then
      Draft.lift (Fault.check close)
      return value
    else match source with
      | .arriving => .error (.fault .malformed)
      | .handed => .error (.wrongLength drafts.length .fewer)
      | .aside => .error (.wrongLength drafts.length (.inSequence shape.fields.length))
  | other => other.refuse shape.wanted

end Shape

/-- A field that may be given once. -/
def once (name : String) (held : Option α) (value : Except Problem α) : Except Problem (Option α) :=
  match held with
  | some _ => .error (.duplicateField name)
  | none => some <$> value

/-- A field that may not be missing. -/
def need (name : String) : Option α → Except String α
  | some value => .ok value
  | none => .error name

/-- Reads a text that is one value and nothing else. -/
def decodeText (value : Draft → Except Problem α) (text : String) : Except Problem α := do
  let document := Document.read text
  let result ← value document.root
  if document.trailing then .error (.fault .malformed)
  return result

end HostSetup.Json
