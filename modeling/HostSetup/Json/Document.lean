import HostSetup.Json.Token

/-!
The tree of a JSON text, built by a machine that takes one word after the other and keeps the
containers that are still open.
-/
namespace HostSetup.Json

/-- Whether anything follows the value. -/
structure Document where
  root : Draft
  trailing : Bool
  deriving Repr

namespace Document

/-- An open container with what it holds, latest empty. A record may have read a key whose value
is still to come. -/
inductive Frame
  | list (items : List Draft)
  | record (members : List (Draft × Draft)) (key : Option Draft)
  deriving Repr

/-- What may come next; `empty` where the container may also end at once. -/
inductive State
  | atValue (frames : List Frame) (empty : Bool)
  | atKey (frames : List Frame) (empty : Bool)
  | atColon (frames : List Frame)
  | atSeparator (frames : List Frame)
  | done (document : Document)
  deriving Repr

/-- Levels beyond this one are not read, only passed over. -/
def depthLimit : Nat := 127

/-- A container around which `outer` are open. -/
def bounded (outer : List Frame) (value : Draft) : Draft :=
  if depthLimit ≤ outer.length then .unreadable .malformed value else value

/-- The container as it stands; a key that waits for its value gets a broken one. -/
def Frame.close (fault : Option Fault) : Frame → Draft
  | .list items => .list items.reverse fault
  | .record members none => .record members.reverse fault
  | .record members (some key) =>
    .record ((key, .broken (fault.getD .malformed)) :: members).reverse none

def Frame.add (value : Draft) : Frame → Frame
  | .list items => .list (value :: items)
  | .record members (some key) => .record ((key, value) :: members) none
  | .record members none => .record ((value, .broken .malformed) :: members) none

/-- A value is complete. -/
def deliver (value : Draft) : List Frame → State
  | [] => .done ⟨value, false⟩
  | frame :: outer => .atSeparator (frame.add value :: outer)

/-- The text breaks off behind this value: all that is open ends with it. -/
def abandon (value : Draft) : List Frame → Document
  | [] => ⟨value, false⟩
  | frame :: outer => abandon (bounded outer ((frame.add value).close none)) outer

/-- The text breaks off where the innermost container would go on or end. -/
def breakOff (fault : Fault) : List Frame → Document
  | [] => ⟨.broken fault, false⟩
  | frame :: outer => abandon (bounded outer (frame.close (some fault))) outer

def finish (frame : Frame) (outer : List Frame) : State :=
  deliver (bounded outer (frame.close none)) outer

def State.step : State → Token → State
  | .atValue frames empty, token =>
    match token, frames with
    | .leaf value, _ | .quotation value, _ => deliver value frames
    | .listOpen, _ => .atValue (.list [] :: frames) true
    | .recordOpen, _ => .atKey (.record [] none :: frames) true
    | .listClose, .list items :: outer =>
      if empty then finish (.list items) outer
      else .done (abandon (.broken .malformed) frames)
    | _, _ => .done (abandon (.broken .malformed) frames)
  | .atKey frames empty, token =>
    match token, frames with
    | .quotation key, .record members _ :: outer => .atColon (.record members (some key) :: outer)
    | .leaf value, _ => .done (abandon (.misplaced value) frames)
    | .listOpen, _ => .done (abandon (.misplaced (.list [] none)) frames)
    | .recordOpen, _ => .done (abandon (.misplaced (.record [] none)) frames)
    | .recordClose, frame :: outer =>
      if empty then finish frame outer else .done (abandon (.broken .malformed) frames)
    | _, _ => .done (abandon (.broken .malformed) frames)
  | .atColon frames, token =>
    match token with
    | .colon => .atValue frames false
    | _ => .done (abandon (.broken .malformed) frames)
  | .atSeparator frames, token =>
    match token, frames with
    | .comma, .list _ :: _ => .atValue frames false
    | .comma, .record _ _ :: _ => .atKey frames false
    | .listClose, .list items :: outer => finish (.list items) outer
    | .recordClose, .record members key :: outer => finish (.record members key) outer
    | _, _ => .done (breakOff .malformed frames)
  | .done document, _ => .done { document with trailing := true }

/-- There are no more words. -/
def State.document : State → Document
  | .atValue frames empty =>
    match frames, empty with
    | .list _ :: _, true => breakOff .ended frames
    | _, _ => abandon (.broken .ended) frames
  | .atKey frames empty => if empty then breakOff .ended frames else abandon (.broken .ended) frames
  | .atColon frames => abandon (.broken .ended) frames
  | .atSeparator frames => breakOff .ended frames
  | .done document => document

def ofTokens (tokens : List Token) : Document :=
  (tokens.foldl State.step (.atValue [] false)).document

def read (text : String) : Document := ofTokens (lex text.toList)

end Document

/-- A text that is one value and nothing else. -/
def parse? (text : String) : Option Json :=
  let document := Document.read text
  match document.root.json with
  | .ok value => if document.trailing then none else some value
  | .error _ => none

end HostSetup.Json
