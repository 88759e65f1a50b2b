import HostSetup.Execution.Report
import HostSetup.Text.Boxed
import HostSetup.Text.Lines

/-!
Reports as texts: the account of a failure, and the table of all results.
-/
namespace HostSetup

/-- Phase, action and command, and the detail line by line. -/
def StepResult.account (r : StepResult) : String :=
  Text.joinLines (
    ["Setup failed in phase '" ++ r.phase ++ "'", "  action:  " ++ r.action.render] ++
    (match r.ending.command with
    | some command => ["  command: " ++ command]
    | none => []) ++
    (match r.ending.detail with
    | some detail => "  output:" :: (Text.lines detail).map fun line => "    " ++ line
    | none => []))

namespace Report

def header : List String := ["#", "Phase", "Action", "Outcome", "Detail"]

/-- A command stands for its action; of the detail only the first line is shown. -/
def row (number : Nat) (r : StepResult) : List String :=
  [toString number, r.phase, r.ending.command.getD r.action.render, r.ending.outcome.name,
    (r.ending.detail.map Text.firstLine).getD ""]

def rows (next : Nat) : List StepResult → List (List String)
  | [] => []
  | r :: rest => row next r :: rows (next + 1) rest

def totals (r : Report) : String :=
  toString (r.count .ok) ++ " ok, " ++ toString (r.count .skipped) ++ " skipped, " ++
    toString (r.count .failed) ++ " failed" ++ if r.halted then " (halted)" else ""

def summary (r : Report) : String := Text.boxed header (rows 1 r.results) ++ "\n" ++ r.totals

end Report
end HostSetup
