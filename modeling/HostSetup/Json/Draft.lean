import HostSetup.Json.Basic

/-!
JSON as it is read: a tree in which the places where the text breaks off are marked. Whoever walks
the tree in the order of the text meets first what stands first in it, be it a wrong shape or a
broken place.
-/
namespace HostSetup.Json

/-- The text ended too early, or went on in a way that no text can. -/
inductive Fault
  | ended
  | malformed
  deriving DecidableEq, Repr, Inhabited

/-- A container is closed, or its text broke off behind the last item. Of a record both the key
and the value of a member may be broken. -/
inductive Draft
  | null
  | bool (value : Bool)
  | number (value : Number)
  | text (value : String)
  | list (items : List Draft) (close : Option Fault)
  | record (members : List (Draft × Draft)) (close : Option Fault)
  | broken (fault : Fault)
  /-- Cannot be read, but passed over as if `skipped` stood there. -/
  | unreadable (fault : Fault) (skipped : Draft)
  /-- Stands where only a key may stand, and is none. -/
  | misplaced (value : Draft)
  deriving Repr, Inhabited

/-- Fails at the fault, if there is one. -/
def Fault.check : Option Fault → Except Fault Unit
  | none => .ok ()
  | some fault => .error fault

namespace Draft

mutual

def ofJson : Json → Draft
  | .null => .null
  | .bool b => .bool b
  | .number n => .number n
  | .text s => .text s
  | .list items => .list (ofItems items) none
  | .record members => .record (ofMembers members) none

def ofItems : List Json → List Draft
  | [] => []
  | item :: rest => ofJson item :: ofItems rest

def ofMembers : List (String × Json) → List (Draft × Draft)
  | [] => []
  | (name, value) :: rest => (.text name, ofJson value) :: ofMembers rest

end

mutual

/-- Passes over a value. -/
def skip : Draft → Except Fault Unit
  | .list items close => do skipItems items; Fault.check close
  | .record members close => do skipMembers members; Fault.check close
  | .broken fault => .error fault
  | .unreadable _ skipped => skip skipped
  | .misplaced _ => .error .malformed
  | _ => .ok ()

def skipItems : List Draft → Except Fault Unit
  | [] => .ok ()
  | item :: rest => do skip item; skipItems rest

def skipMembers : List (Draft × Draft) → Except Fault Unit
  | [] => .ok ()
  | (key, value) :: rest => do skipKey key; skip value; skipMembers rest

def skipKey : Draft → Except Fault Unit
  | .text _ => .ok ()
  | .broken fault => .error fault
  | .unreadable _ skipped => skip skipped
  | _ => .error .malformed

end

/-- A name in a record. -/
def key : Draft → Except Fault String
  | .text s => .ok s
  | .broken fault | .unreadable fault _ => .error fault
  | _ => .error .malformed

mutual

/-- Reads a value whole. -/
def json : Draft → Except Fault Json
  | .null => .ok .null
  | .bool b => .ok (.bool b)
  | .number n => .ok (.number n)
  | .text s => .ok (.text s)
  | .list items close => do
    let items ← jsonItems items
    Fault.check close
    return .list items
  | .record members close => do
    let members ← jsonMembers members
    Fault.check close
    return .record members
  | .broken fault | .unreadable fault _ => .error fault
  | .misplaced _ => .error .malformed

def jsonItems : List Draft → Except Fault (List Json)
  | [] => .ok []
  | item :: rest => do
    let item ← json item
    let rest ← jsonItems rest
    return item :: rest

def jsonMembers : List (Draft × Draft) → Except Fault (List (String × Json))
  | [] => .ok []
  | (key, value) :: rest => do
    let name ← key.key
    let value ← json value
    let rest ← jsonMembers rest
    return (name, value) :: rest

end

mutual

theorem json_ofJson (j : Json) : json (ofJson j) = .ok j := by
  cases j with
  | list items => simp [ofJson, json, jsonItems_ofItems items, bind, Except.bind, pure, Except.pure, Fault.check]
  | record members =>
    simp [ofJson, json, jsonMembers_ofMembers members, bind, Except.bind, pure, Except.pure, Fault.check]
  | _ => rfl

theorem jsonItems_ofItems (items : List Json) : jsonItems (ofItems items) = .ok items := by
  cases items with
  | nil => rfl
  | cons item rest =>
    simp [ofItems, jsonItems, json_ofJson item, jsonItems_ofItems rest, bind, Except.bind, pure, Except.pure]

theorem jsonMembers_ofMembers (members : List (String × Json)) :
    jsonMembers (ofMembers members) = .ok members := by
  match members with
  | [] => rfl
  | (name, value) :: rest =>
    simp [ofMembers, jsonMembers, key, json_ofJson value, jsonMembers_ofMembers rest, bind, Except.bind,
      pure, Except.pure]

end

end Draft
end HostSetup.Json
