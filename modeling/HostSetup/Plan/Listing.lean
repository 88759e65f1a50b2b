import HostSetup.Plan.Basic
import HostSetup.Text.Lines

/-!
A plan as a numbered list.
-/
namespace HostSetup.Plan

def entry (number : Nat) (a : Action) : String :=
  "    " ++ toString number ++ ". " ++ a.render ++
    (match a.guard with
    | some guard => "  (when " ++ guard.render ++ ")"
    | none => "")

def entries (next : Nat) : List Action → List String
  | [] => []
  | a :: rest => entry next a :: entries (next + 1) rest

/-- The numbers go on from one phase to the next; a phase without actions is left out. -/
def sections (next : Nat) : List Phase → List String
  | [] => []
  | ph :: rest =>
    (if ph.actions.isEmpty then [] else ("  [" ++ ph.name ++ "]") :: entries next ph.actions) ++
      sections (next + ph.actions.length) rest

def listing (p : Platform) (plan : Plan) : String :=
  Text.joinLines (("Setup plan for " ++ p.render) ::
    sections 1 plan.phases ++ if plan.steps.isEmpty then ["  (nothing to do)"] else [])

end HostSetup.Plan
