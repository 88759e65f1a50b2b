import HostSetup.Execution.Summary
import HostSetup.Plan.Listing
import HostSetup.Proofs.Execution.Preview
import HostSetup.Proofs.Text.Boxed

/-!
The numbers of the actions of a plan. The listing of the plan counts them on from one phase to the
next, the table of a dry run counts its results. Both count the steps of the plan, so that a number
stands for the same action in both.
-/
namespace HostSetup
namespace Plan

/-- What stands on a line of a listing between its title and its end. -/
inductive Line
  | heading (phase : String)
  | numbered (number : Nat) (a : Action)
  deriving DecidableEq, Repr

namespace Line

/-- The text of a line: the phase in brackets, or number, kind, payload and options of the action, and
the guard behind them if there is one. -/
def text : Line → String
  | heading phase => "  [" ++ phase ++ "]"
  | numbered number a =>
    let options := String.join (a.options.toList.map fun o => " [" ++ o.name ++ "]")
    let shown := "    " ++ toString number ++ ". " ++ a.kind.name ++ " " ++ a.payload.text ++ options
    match a.guard with
    | none => shown
    | some guard => shown ++ "  (when " ++ guard.render ++ ")"

theorem text_numbered (number : Nat) (a : Action) : (numbered number a).text = entry number a := by
  cases guarded : a.guard <;> simp [text, entry, Action.render, guarded, String.append_assoc]

def heading? : Line → Option String
  | heading phase => some phase
  | numbered .. => none

/-- A phase and its actions, numbered from `first` on, if it has any. -/
def block (first : Nat) (ph : Phase) : List Line :=
  if ph.actions = [] then []
  else heading ph.name :: (ph.actions.zipIdx first).map fun (a, number) => numbered number a

/-- What is found by reading the lines from the top: each action with the last heading above it, and
with its number. -/
def found (above : String) : List Line → List (Step × Nat)
  | [] => []
  | heading phase :: rest => found phase rest
  | numbered number a :: rest => ((above, a), number) :: found above rest

end Line

/-- The blocks of some phases, each beginning with the number at which those before it end. -/
def blocks (first : Nat) (phases : List Phase) : List Line :=
  (List.zipWith Line.block ((phases.map (·.actions.length)).scanl (· + ·) first) phases).flatten

def outline (plan : Plan) : List Line := blocks 1 plan.phases

theorem blocks_cons (first : Nat) (ph : Phase) (rest : List Phase) :
    blocks first (ph :: rest) = Line.block first ph ++ blocks (first + ph.actions.length) rest := by
  simp only [blocks, List.map_cons, List.scanl_cons, List.zipWith_cons_cons, List.flatten_cons]

theorem entries_eq (first : Nat) (actions : List Action) :
    entries first actions = (actions.zipIdx first).map fun (a, number) => entry number a := by
  induction actions generalizing first with
  | nil => rfl
  | cons a rest ih => rw [entries, ih, List.zipIdx_cons, List.map_cons]

theorem sections_eq (first : Nat) (phases : List Phase) :
    sections first phases = (blocks first phases).map Line.text := by
  induction phases generalizing first with
  | nil => rfl
  | cons ph rest ih =>
    rw [sections, ih, blocks_cons, List.map_append]
    congr 1
    by_cases empty : ph.actions = []
    · simp [Line.block, empty]
    · simp only [Line.block, empty, if_false, List.isEmpty_iff, List.map_cons, List.map_map,
        Function.comp_def, Line.text_numbered, entries_eq]
      rfl

theorem found_numbered (above : String) (actions : List Action) (first : Nat) (rest : List Line) :
    Line.found above (((actions.zipIdx first).map fun (a, number) => .numbered number a) ++ rest) =
      (actions.map (above, ·)).zipIdx first ++ Line.found above rest := by
  induction actions generalizing first with
  | nil => rfl
  | cons a others ih =>
    simp only [List.zipIdx_cons, List.map_cons, List.cons_append, Line.found, ih]

/-- The heading of the block before has no part in this. -/
theorem found_blocks (above : String) (first : Nat) (phases : List Phase) :
    Line.found above (blocks first phases) =
      (phases.flatMap fun ph => ph.actions.map (ph.name, ·)).zipIdx first := by
  induction phases generalizing above first with
  | nil => rfl
  | cons ph rest ih =>
    rw [blocks_cons, List.flatMap_cons, List.zipIdx_append, List.length_map]
    by_cases empty : ph.actions = []
    · simp [Line.block, empty, ih]
    · rw [Line.block, if_neg empty, List.cons_append, Line.found, found_numbered, ih]

theorem headings_blocks (first : Nat) (phases : List Phase) :
    (blocks first phases).filterMap Line.heading? =
      (phases.filter fun ph => ph.actions ≠ []).map (·.name) := by
  induction phases generalizing first with
  | nil => rfl
  | cons ph rest ih =>
    rw [blocks_cons, List.filterMap_append, ih]
    by_cases empty : ph.actions = []
    · simp [Line.block, empty]
    · have unheaded : ((ph.actions.zipIdx first).map fun (a, number) =>
          Line.numbered number a).filterMap Line.heading? = [] := by
        simp [List.filterMap_eq_nil_iff, Line.heading?]
      simp [Line.block, empty, Line.heading?, unheaded]

end Plan

namespace Report

theorem rows_eq (first : Nat) (results : List StepResult) :
    rows first results = (results.zipIdx first).map fun (r, number) => row number r := by
  induction results generalizing first with
  | nil => rfl
  | cons r rest ih => rw [rows, ih, List.zipIdx_cons, List.map_cons]

/-- Each result has a line in the table with its number, its phase, and its command or its action. -/
theorem summary_shows (r : Report) :
    ∃ shown, shown.Sublist (Text.pieces r.summary) ∧
      List.Forall₂ (fun (result, number) line =>
          Text.Shows line
            [toString number, result.phase, result.ending.command.getD result.action.render])
        (r.results.zipIdx 1) shown := by
  have even : ∀ cells ∈ rows 1 r.results, cells.length = header.length := by
    rw [rows_eq]
    intro cells member
    obtain ⟨numbered, -, rfl⟩ := List.mem_map.mp member
    rfl
  obtain ⟨shown, order, shows⟩ := Text.boxed_shows even (by simp [header])
  refine ⟨shown, ?_, ?_⟩
  · rw [summary, Text.pieces_append_feed]
    exact order.trans (List.sublist_append_left ..)
  · rw [rows_eq, List.forall₂_map_left_iff] at shows
    refine shows.imp fun numbered line all s member => all s ?_
    exact List.mem_of_mem_take (i := 3) member

/-- Each result is counted once. -/
theorem count_total (r : Report) :
    r.count .ok + r.count .skipped + r.count .failed = r.results.length := by
  obtain ⟨results, halted⟩ := r
  simp only [count]
  induction results with
  | nil => rfl
  | cons result rest ih =>
    have once : (if result.ending.outcome = .ok then 1 else 0) +
        (if result.ending.outcome = .skipped then 1 else 0) +
        (if result.ending.outcome = .failed then 1 else 0) = 1 := by
      cases result.ending.outcome <;> rfl
    simp only [List.countP_cons, List.length_cons, decide_eq_true_eq]
    omega

end Report

namespace Plan

/-- The listing of a plan has a title, a block for each phase that has actions, and a last line just
if the plan has no action. Read from the top, its headings are the phases with actions, and it has the
actions of the plan in their order, each under its phase, numbered from one on without a gap. A dry run
has one result for each of them, and its table numbers them in the same way: in their order, each has a
line that shows its number, its phase, and its command or else the action. The totals below the table
count them all. -/
theorem listing_and_table_number_alike {τ : Type} (idle : Runner (StateM τ)) (p : Platform)
    (t : Translator) (options : ExecutionOptions) (plan : Plan) (u : τ) :
    let actions := plan.phases.flatMap fun ph => ph.actions.map (ph.name, ·)
    let report := (((Executor.dry t options).execute idle p plan).run u).1
    plan.listing p = "\n".intercalate (("Setup plan for " ++ p.render) :: plan.outline.map Line.text ++
        if actions.length = 0 then ["  (nothing to do)"] else []) ∧
      (∀ above, Line.found above plan.outline = actions.zipIdx 1) ∧
      plan.outline.filterMap Line.heading? =
        (plan.phases.filter fun ph => ph.actions ≠ []).map (·.name) ∧
      report.results.length = actions.length ∧
      (report.results.zipIdx 1).map (fun (r, number) => ((r.phase, r.action), number)) =
        actions.zipIdx 1 ∧
      report.summary =
        Text.boxed ["#", "Phase", "Action", "Outcome", "Detail"]
          ((report.results.zipIdx 1).map fun (r, number) =>
            [toString number, r.phase, r.ending.command.getD r.action.render, r.ending.outcome.name,
              (r.ending.detail.map Text.firstLine).getD ""]) ++
        "\n" ++ toString (report.count .ok) ++ " ok, " ++ toString (report.count .skipped) ++
        " skipped, " ++ toString (report.count .failed) ++ " failed" ∧
      (∃ shown, shown.Sublist (Text.pieces report.summary) ∧
        List.Forall₂ (fun (r, number) line =>
            Text.Shows line [toString number, r.phase, r.ending.command.getD r.action.render])
          (report.results.zipIdx 1) shown) ∧
      report.count .ok + report.count .skipped + report.count .failed = actions.length := by
  intro actions report
  have foreseen : report = ⟨plan.steps.map (StepResult.forecast t p), false⟩ := by
    simp only [report, Executor.execute_dry]
    rfl
  have steps : report.results.map StepResult.step = actions := by
    rw [foreseen, List.map_map]
    exact List.map_id _
  have length : report.results.length = actions.length := by rw [← steps, List.length_map]
  refine ⟨?listing, fun above => found_blocks above 1 plan.phases, headings_blocks 1 plan.phases,
    length, ?numbers, ?summary, report.summary_shows, report.count_total.trans length⟩
  case listing =>
    simp only [listing, Text.joinLines, outline, sections_eq, List.isEmpty_iff,
      List.length_eq_zero_iff]
    rfl
  case numbers =>
    rw [← steps, List.zipIdx_map]
    rfl
  case summary =>
    have through : report.halted = false := by rw [foreseen]
    simp only [Report.summary, Report.rows_eq, Report.totals, through, String.append_assoc]
    rfl

end Plan
end HostSetup
