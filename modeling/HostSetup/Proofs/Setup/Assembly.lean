import HostSetup.Proofs.Setup.Registration

/-!
Setups put together action by action. A setup keeps its phases in the order of their names, a
registry in the order in which they began; a plan asks for phases by their names, so that it does
not matter which of the two was filled.
-/
namespace HostSetup

namespace NameMap

variable {α β : Type}

/-- Of entries in ascending order only one has a given name. -/
theorem filter_name_eq_toList (name : String) {entries : List (String × α)}
    (ascending : entries.Pairwise (·.1 < ·.1)) :
    entries.filter (·.1 = name) = (entries.find? (·.1 == name)).toList := by
  induction entries with
  | nil => rfl
  | cons head rest ih =>
    obtain ⟨above, ascending⟩ := List.pairwise_cons.mp ascending
    by_cases same : head.1 = name
    · have none : rest.filter (·.1 = name) = [] := by
        rw [List.filter_eq_nil_iff]
        intro entry member
        have lower : name < entry.1 := same ▸ above entry member
        simpa using fun again : entry.1 = name => String.lt_irrefl _ (again ▸ lower)
      simp [same, none]
    · simpa [same] using ih ascending

/-- A fold passes over a new entry that it does nothing with, wherever its name belongs. -/
theorem foldl_put {f : β → String × α → β} {name : String} {value : α}
    (idle : ∀ b, f b (name, value) = b) {entries : List (String × α)}
    (fresh : ∀ entry ∈ entries, entry.1 ≠ name) (b : β) :
    (put name value entries).foldl f b = entries.foldl f b := by
  induction entries generalizing b with
  | nil => exact idle b
  | cons head rest ih =>
    obtain ⟨first, fresh⟩ := List.forall_mem_cons.mp fresh
    rw [put, if_neg (Ne.symm first)]
    split
    · rw [List.foldl_cons, idle]
    · exact ih fresh _

theorem ne_of_get?_eq_none {m : NameMap α} {name : String} (absent : m.get? name = none) :
    ∀ entry ∈ m.entries, entry.1 ≠ name := by
  simpa [get?] using absent

end NameMap

namespace Registry

/-- A plan takes from a registry no more than the actions under each name. -/
theorem plan_congr {r other : Registry} (same : ∀ name, r.actions name = other.actions name)
    (p : Platform) : r.plan p = other.plan p := by
  have candidates : r.candidates p = other.candidates p := by
    funext slot
    simp only [Registry.candidates, same]
  have filled (slots : List Slot) (seen : List Action) : r.fill p seen slots = other.fill p seen slots := by
    induction slots generalizing seen with
    | nil => rfl
    | cons slot rest ih => simp only [fill, candidates, ih]
  exact congrArg Plan.mk (filled Slot.all [])

theorem actions_ofList (name : String) (steps : List Plan.Step) :
    (ofList steps).actions name = (steps.filter (·.1 = name)).map (·.2) :=
  actions_foldl name steps {}

/-- What was registered first for all hosts is done first. -/
theorem head?_steps_plan {r : Registry} {a : Action} {rest : List Action}
    (first : r.actions Slot.commonFirst.name = a :: rest) (p : Platform) :
    (r.plan p).steps.head? = some (Slot.commonFirst.name, a) := by
  have candidates : r.candidates p .commonFirst = a :: rest := first
  simp only [plan, Slot.all, fill, candidates, keepUnseen, List.not_mem_nil, if_false]
  rfl

end Registry

namespace Setup

/-- The actions of a phase, none if there is no such phase. -/
def actions (phase : String) (c : Setup) : List Action := (c.phases.get? phase).getD []

theorem actions_add (phase name : String) (a : Action) (c : Setup) :
    (c.add phase a).actions name = if phase = name then c.actions name ++ [a] else c.actions name := by
  simp only [actions, add, NameMap.get?_insert]
  split
  · rename_i same
    rw [same, Option.getD_some]
  · rfl

theorem actions_foldl_add (name : String) (steps : List Plan.Step) (c : Setup) :
    (steps.foldl (fun c step => c.add step.1 step.2) c).actions name =
      c.actions name ++ (steps.filter (·.1 = name)).map (·.2) := by
  induction steps generalizing c with
  | nil => simp
  | cons step rest ih =>
    rw [List.foldl_cons, ih, actions_add]
    by_cases same : step.1 = name <;> simp [same]

/-- A new setup, to which the actions were added one after the other. -/
def ofSteps (refresh : Bool) (steps : List Plan.Step) : Setup :=
  { steps.foldl (fun c step => c.add step.1 step.2) ({} : Setup) with refresh := refresh }

theorem actions_ofSteps (name : String) (refresh : Bool) (steps : List Plan.Step) :
    (ofSteps refresh steps).actions name = (steps.filter (·.1 = name)).map (·.2) :=
  actions_foldl_add name steps {}

/-- The refresh, where a setup asks for it. -/
def opening (refresh : Bool) : List Plan.Step :=
  if refresh then [(Slot.commonFirst.name, .refresh)] else []

theorem under_phases (name : String) (entries : List (String × List Action)) :
    Registration.under name (entries.map fun entry => .several entry.1 entry.2) =
      (entries.filter (·.1 = name)).flatMap (·.2) := by
  induction entries with
  | nil => rfl
  | cons entry rest ih =>
    rw [Registration.under] at ih ⊢
    rw [List.map_cons, List.flatMap_cons, List.filter_append, List.map_append, ih]
    by_cases same : entry.1 = name <;> simp [Registration.steps, List.filter_map, Function.comp_def, same]

/-- Under each name a setup registers its phase, behind the refresh where that is due. -/
theorem actions_registry (name : String) (c : Setup) :
    c.registry.actions name =
      ((opening c.refresh).filter (·.1 = name)).map (·.2) ++ c.actions name := by
  have phases : Registration.under name (c.phases.entries.map fun entry => .several entry.1 entry.2) =
      c.actions name := by
    rw [under_phases, NameMap.filter_name_eq_toList name c.phases.ascending, actions, NameMap.get?]
    cases c.phases.entries.find? (·.1 == name) <;> simp
  rw [registry_eq_ofCalls, Registry.actions_ofCalls, ← phases, registrations]
  simp only [Registration.under, List.flatMap_append, List.filter_append, List.map_append, opening]
  cases c.refresh <;> rfl

/-- An empty phase is no phase. -/
theorem registry_setPhase_nil {c : Setup} {phase : String} (absent : c.phases.get? phase = none) :
    (c.setPhase phase []).registry = c.registry :=
  NameMap.foldl_put (fun _ => rfl) (NameMap.ne_of_get?_eq_none absent) _

/-- On every host a setup that was put together action by action has the plan of a registry that was
told the same in the same order, after the refresh if it is to refresh; the refresh is then done
first. A new phase that holds nothing changes neither the names of the phases nor any plan. -/
theorem plan_of_added (steps : List Plan.Step) (refresh : Bool) (p : Platform) :
    let planned := (ofSteps refresh steps).registry.plan p
    planned = (Registry.ofList (opening refresh ++ steps)).plan p ∧
      (refresh = true → planned.steps.head? = some (Slot.commonFirst.name, .refresh)) ∧
      ∀ (c : Setup) (phase : String), c.phases.get? phase = none →
        (c.setPhase phase []).registry.phaseNames = c.registry.phaseNames ∧
          ∀ q, (c.setPhase phase []).registry.plan q = c.registry.plan q := by
  intro planned
  refine ⟨?same, ?first, ?empty⟩
  case same =>
    refine Registry.plan_congr (fun name => ?_) p
    rw [actions_registry, actions_ofSteps, Registry.actions_ofList, List.filter_append,
      List.map_append]
    rfl
  case first =>
    rintro rfl
    exact Registry.head?_steps_plan (actions_registry _ _) p
  case empty =>
    intro c phase absent
    rw [registry_setPhase_nil absent]
    exact ⟨rfl, fun _ => rfl⟩

/-- Phases out of order, a refresh that was added by hand besides, and a phase for another host. -/
theorem plan_of_added_with_own_refresh :
    let steps : List Plan.Step :=
      [("debian-compat", .install (.one "git")), ("common-first", .install (.one "jq")),
        ("debian-compat", .refresh), ("common-first", .install (.many ["git"]))]
    let c := ofSteps true steps
    let ubuntu : Platform := ⟨.debian, "ubuntu", "22.04", "x86_64"⟩
    c.registry.plan ubuntu = (Registry.ofList (opening true ++ steps)).plan ubuntu ∧
      (true = true → (c.registry.plan ubuntu).steps.head? = some ("common-first", .refresh)) ∧
      c.phases.get? "fedora" = none ∧
      (c.setPhase "fedora" []).registry.phaseNames = c.registry.phaseNames := by
  intro steps c ubuntu
  obtain ⟨same, first, empty⟩ := plan_of_added steps true ubuntu
  have absent : c.phases.get? "fedora" = none := by decide
  exact ⟨same, first, absent, (empty c "fedora" absent).1⟩

end Setup
end HostSetup
