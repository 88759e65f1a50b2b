import Mathlib.Data.List.Nodup
import HostSetup.Proofs.Plan.Firsts
import HostSetup.Proofs.Plan.Registration

/-!
Plans as a rule: what was registered for the slots of a host is laid out slot after slot, and an
action stays where it is unless one before it has the same normal form. The scan that carries the
normal forms it has seen from slot to slot follows this rule.
-/
namespace HostSetup

def Phase.entries (ph : Phase) : List Entry := ph.actions.map (ph.slot, ·)

namespace Resolution

/-- What the calls bring to a slot of a host. -/
def brought (calls : List Registration) (p : Platform) (slot : Slot) : List Action :=
  match slot.phaseName? p with
  | some name => Registration.under name calls
  | none => []

def entriesOf (bring : Slot → List Action) (slots : List Slot) : List Entry :=
  slots.flatMap fun slot => (bring slot).map (slot, ·)

/-- The phase of a slot, with the entries that are meant for it. -/
def phaseOf (entries : List Entry) (p : Platform) (slot : Slot) : Phase :=
  ⟨(slot.phaseName? p).getD slot.name, slot, (entries.filter (·.1 = slot)).map (·.2)⟩

/-- The plan of a host by the rule. -/
def plan (calls : List Registration) (p : Platform) : Plan :=
  ⟨Slot.all.map (phaseOf (firsts (entriesOf (brought calls p) Slot.all)) p)⟩

/-- The normal forms that a scan has noted are those of the entries it has passed. -/
def Noted (seen : List Action) (before : List Entry) : Prop :=
  ∀ form, form ∈ seen ↔ ∃ earlier ∈ before, earlier.2.normalized = form

theorem noted_iff {seen : List Action} {before : List Entry} (noted : Noted seen before)
    (entry : Entry) : entry.2.normalized ∈ seen ↔ ¬IsFresh before entry :=
  (noted _).trans not_isFresh_iff.symm

theorem Noted.add {seen : List Action} {before : List Entry} (noted : Noted seen before)
    (entry : Entry) : Noted (entry.2.normalized :: seen) (before ++ [entry]) := by
  intro form
  simp only [List.mem_cons, noted form, List.mem_append, List.not_mem_nil, or_false]
  grind

theorem Noted.pass {seen : List Action} {before : List Entry} (noted : Noted seen before)
    (entry : Entry) (repeated : entry.2.normalized ∈ seen) : Noted seen (before ++ [entry]) := by
  intro form
  have added := noted.add entry form
  grind

theorem keepUnseen_entries (slot : Slot) (actions : List Action) {seen : List Action}
    {before : List Entry} (noted : Noted seen before) :
    (Registry.keepUnseen seen actions).1.map (slot, ·) = firstsAfter before (actions.map (slot, ·)) ∧
      Noted (Registry.keepUnseen seen actions).2 (before ++ actions.map (slot, ·)) := by
  induction actions generalizing seen before with
  | nil => simpa [Registry.keepUnseen, firstsAfter_nil] using noted
  | cons a rest ih =>
    rw [List.map_cons, firstsAfter_cons, List.append_cons before (slot, a) (rest.map (slot, ·))]
    by_cases repeated : a.normalized ∈ seen
    · have stale := (noted_iff noted (slot, a)).mp repeated
      rw [Registry.keepUnseen, if_pos repeated, if_neg stale]
      exact ih (noted.pass (slot, a) repeated)
    · have fresh : IsFresh before (slot, a) := by
        simpa using mt (noted_iff noted (slot, a)).mpr repeated
      rw [Registry.keepUnseen, if_neg repeated, if_pos fresh]
      obtain ⟨kept, noted⟩ := ih (noted.add (slot, a))
      exact ⟨congrArg ((slot, a) :: ·) kept, noted⟩

theorem fill_entries (r : Registry) (p : Platform) (slots : List Slot) {seen : List Action}
    {before : List Entry} (noted : Noted seen before) :
    (r.fill p seen slots).flatMap Phase.entries =
      firstsAfter before (entriesOf (r.candidates p) slots) := by
  induction slots generalizing seen before with
  | nil => rfl
  | cons slot rest ih =>
    -- all candidates of the slot come before the next one, also those that are not kept
    obtain ⟨kept, noted⟩ := keepUnseen_entries slot (r.candidates p slot) noted
    rw [Registry.fill, List.flatMap_cons, ih noted]
    simp only [Phase.entries, entriesOf, List.flatMap_cons, firstsAfter_append, kept]

theorem fill_slots (r : Registry) (p : Platform) (slots : List Slot) (seen : List Action) :
    (r.fill p seen slots).map (·.slot) = slots := by
  induction slots generalizing seen with
  | nil => rfl
  | cons slot rest ih => rw [Registry.fill, List.map_cons, ih]

theorem name_of_mem_fill {r : Registry} {p : Platform} {slots : List Slot} {seen : List Action}
    {ph : Phase} (member : ph ∈ r.fill p seen slots) :
    ph.name = (ph.slot.phaseName? p).getD ph.slot.name := by
  induction slots generalizing seen with
  | nil => simp [Registry.fill] at member
  | cons slot rest ih =>
    rw [Registry.fill] at member
    rcases List.mem_cons.mp member with rfl | later
    · rfl
    · exact ih later

theorem actions_of_own_entries (ph : Phase) :
    (ph.entries.filter (·.1 = ph.slot)).map (·.2) = ph.actions := by
  simp [Phase.entries, List.filter_map, Function.comp_def]

theorem no_entries_of_other {phases : List Phase} {slot : Slot} (other : slot ∉ phases.map (·.slot)) :
    (phases.flatMap Phase.entries).filter (·.1 = slot) = [] := by
  rw [List.filter_eq_nil_iff]
  intro entry member
  obtain ⟨ph, place, own⟩ := List.mem_flatMap.mp member
  obtain ⟨a, _, rfl⟩ := List.mem_map.mp own
  simp only [decide_eq_true_eq]
  rintro rfl
  exact other (List.mem_map_of_mem place)

/-- Where no two phases share a slot, the entries of all tell the actions of each. -/
theorem actions_of_entries {phases : List Phase} (distinct : (phases.map (·.slot)).Nodup)
    {ph : Phase} (member : ph ∈ phases) :
    ((phases.flatMap Phase.entries).filter (·.1 = ph.slot)).map (·.2) = ph.actions := by
  induction phases with
  | nil => simp at member
  | cons head rest ih =>
    obtain ⟨other, distinct⟩ := List.nodup_cons.mp distinct
    rw [List.flatMap_cons, List.filter_append]
    rcases List.mem_cons.mp member with rfl | later
    · rw [no_entries_of_other other, List.append_nil, actions_of_own_entries]
    · have apart : ph.slot ∉ [head].map (·.slot) := by
        intro same
        obtain eq := List.mem_singleton.mp same
        exact other (eq ▸ List.mem_map_of_mem later)
      have none := no_entries_of_other apart
      rw [List.flatMap_singleton] at none
      rw [none, List.nil_append, ih distinct later]

theorem candidates_ofCalls (calls : List Registration) (p : Platform) :
    (Registry.ofCalls calls).candidates p = brought calls p := by
  funext slot
  unfold Registry.candidates brought
  cases slot.phaseName? p with
  | none => rfl
  | some name => exact Registry.actions_ofCalls name calls

theorem plan_entries (calls : List Registration) (p : Platform) :
    ((Registry.ofCalls calls).plan p).phases.flatMap Phase.entries =
      firsts (entriesOf (brought calls p) Slot.all) := by
  have noted : Noted [] [] := by simp [Noted]
  exact candidates_ofCalls calls p ▸ fill_entries _ p Slot.all noted

theorem plan_slots (r : Registry) (p : Platform) : (r.plan p).phases.map (·.slot) = Slot.all :=
  fill_slots r p Slot.all []

theorem map_phaseOf_slots {phases : List Phase} {entries : List Entry} {p : Platform}
    (own : ∀ ph ∈ phases, phaseOf entries p ph.slot = ph) :
    (phases.map (·.slot)).map (phaseOf entries p) = phases := by
  rw [List.map_map]
  exact (List.map_congr_left own).trans (List.map_id phases)

theorem plan_ofCalls (calls : List Registration) (p : Platform) :
    (Registry.ofCalls calls).plan p = plan calls p := by
  have slots := plan_slots (Registry.ofCalls calls) p
  have distinct : (((Registry.ofCalls calls).plan p).phases.map (·.slot)).Nodup := by
    rw [slots]
    decide
  have own : ∀ ph ∈ ((Registry.ofCalls calls).plan p).phases,
      phaseOf (firsts (entriesOf (brought calls p) Slot.all)) p ph.slot = ph := by
    intro ph member
    rw [phaseOf, ← name_of_mem_fill member, ← plan_entries, actions_of_entries distinct member]
  have phases := map_phaseOf_slots own
  rw [slots] at phases
  exact congrArg Plan.mk phases.symm

theorem actions_of_steps (plan : Plan) :
    plan.steps.map (·.2) = (plan.phases.flatMap Phase.entries).map (·.2) := by
  simp only [Plan.steps, Phase.entries, List.map_flatMap, List.map_map]
  rfl

theorem forms_of_steps (plan : Plan) :
    plan.steps.map (·.2.normalized) = (plan.phases.flatMap Phase.entries).map (·.2.normalized) := by
  have forms := congrArg (List.map Action.normalized) (actions_of_steps plan)
  rwa [List.map_map, List.map_map] at forms

theorem nodup_forms (calls : List Registration) (p : Platform) :
    (((Registry.ofCalls calls).plan p).steps.map (·.2.normalized)).Nodup := by
  rw [forms_of_steps, plan_entries]
  exact firstsAfter_nodup ..

theorem brought_congr {calls others : List Registration}
    (same : ∀ name, Registration.under name others = Registration.under name calls) (p : Platform) :
    brought others p = brought calls p := by
  funext slot
  unfold brought
  cases slot.phaseName? p with
  | none => rfl
  | some name => exact same name

theorem mem_brought {calls : List Registration} {p : Platform} {slot : Slot} {a : Action} :
    a ∈ brought calls p slot ↔
      ∃ name, slot.phaseName? p = some name ∧ a ∈ Registration.under name calls := by
  unfold brought
  cases slot.phaseName? p with
  | none => simp
  | some name => simp

theorem mem_entriesOf {bring : Slot → List Action} {entry : Entry} :
    entry ∈ entriesOf bring Slot.all ↔ entry.2 ∈ bring entry.1 := by
  obtain ⟨slot, a⟩ := entry
  cases slot <;> simp [entriesOf, Slot.all]

theorem entriesOf_ordered (bring : Slot → List Action) {slots : List Slot} {R : Slot → Slot → Prop}
    (reflexive : ∀ slot, R slot slot) (ordered : slots.Pairwise R) :
    (entriesOf bring slots).Pairwise fun e f => R e.1 f.1 := by
  rw [entriesOf, List.pairwise_flatMap]
  refine ⟨?_, ordered.imp ?_⟩
  · intro slot _
    rw [List.pairwise_map]
    exact List.pairwise_of_forall fun _ _ => reflexive slot
  · intro first second le e left f right
    obtain ⟨_, _, rfl⟩ := List.mem_map.mp left
    obtain ⟨_, _, rfl⟩ := List.mem_map.mp right
    exact le

theorem mem_phase_iff {plan : Plan} {entry : Entry} :
    entry ∈ plan.phases.flatMap Phase.entries ↔
      ∃ ph ∈ plan.phases, ph.slot = entry.1 ∧ entry.2 ∈ ph.actions := by
  obtain ⟨slot, a⟩ := entry
  simp only [List.mem_flatMap, Phase.entries, List.mem_map, Prod.mk.injEq]
  grind

theorem mem_entries {plan : Plan} {ph : Phase} (phase : ph ∈ plan.phases) {a : Action}
    (action : a ∈ ph.actions) : (ph.slot, a) ∈ plan.phases.flatMap Phase.entries :=
  mem_phase_iff.mpr ⟨ph, phase, rfl, action⟩

theorem registered_of_mem_phase {calls : List Registration} {p : Platform} {ph : Phase}
    (phase : ph ∈ ((Registry.ofCalls calls).plan p).phases) {a : Action} (action : a ∈ ph.actions) :
    ph.slot.phaseName? p = some ph.name ∧ a ∈ Registration.under ph.name calls := by
  have place := mem_entries phase action
  rw [plan_entries] at place
  obtain ⟨name, resolves, registered⟩ :=
    mem_brought.mp (mem_entriesOf.mp (firstsAfter_subset _ _ place))
  have own : ph.name = name := by rw [name_of_mem_fill phase, resolves, Option.getD_some]
  exact ⟨own ▸ resolves, own ▸ registered⟩

/-- Whatever is done on a host was registered under the name of one of its slots. -/
theorem registered_of_mem_steps {calls : List Registration} {p : Platform} {step : Plan.Step}
    (member : step ∈ ((Registry.ofCalls calls).plan p).steps) :
    ∃ slot, Slot.phaseName? p slot = some step.1 ∧ step.2 ∈ Registration.under step.1 calls := by
  obtain ⟨ph, phase, own⟩ := List.mem_flatMap.mp member
  obtain ⟨a, action, rfl⟩ := List.mem_map.mp own
  exact ⟨ph.slot, registered_of_mem_phase phase action⟩

/-- Two actions are never placed in the same plan exactly if they have the same normal form. -/
theorem never_together_iff {a b : Action} (differ : a ≠ b) :
    (∀ (calls : List Registration) (p : Platform),
      let placed := ((Registry.ofCalls calls).plan p).steps.map (·.2)
      ¬(a ∈ placed ∧ b ∈ placed)) ↔ a.normalized = b.normalized := by
  constructor
  · intro apart
    by_contra forms
    let calls : List Registration := [.several Slot.commonFirst.name [a, b]]
    let p : Platform := default
    have entries : ∃ rest, entriesOf (brought calls p) Slot.all =
        (.commonFirst, a) :: (.commonFirst, b) :: rest := ⟨_, rfl⟩
    obtain ⟨rest, entries⟩ := entries
    have first : IsFresh [] (.commonFirst, a) := by simp [IsFresh]
    have second : IsFresh [(.commonFirst, a)] (.commonFirst, b) := by simpa [IsFresh] using forms
    apply apart calls p
    rw [actions_of_steps, plan_entries, entries, firsts, firstsAfter_cons, if_pos first,
      List.nil_append, firstsAfter_cons, if_pos second]
    simp
  · intro forms calls p placed
    rintro ⟨left, right⟩
    have distinct : (placed.map Action.normalized).Nodup := by
      rw [List.map_map]
      exact nodup_forms calls p
    exact differ (List.inj_on_of_nodup_map distinct left right forms)

/-- The plan of a host has the five slots in their order, and is laid out by the rule. So no two of
its actions have the same normal form; all that is registered for a slot of the host is there in its
normal form, in this slot or an earlier one, and nothing else is; and how the calls for different
names were mixed makes no difference. -/
theorem plan_follows_rule (calls : List Registration) (p : Platform) :
    let resolved := (Registry.ofCalls calls).plan p
    resolved.phases.map (·.slot) = [.commonFirst, .familyCompat, .distro, .os, .commonLast] ∧
      resolved = plan calls p ∧
      (resolved.steps.map (·.2.normalized)).Nodup ∧
      (∀ slot name, slot.phaseName? p = some name → ∀ a ∈ Registration.under name calls,
        ∃ ph ∈ resolved.phases, Slot.all.idxOf ph.slot ≤ Slot.all.idxOf slot ∧
          ∃ b ∈ ph.actions, b.normalized = a.normalized) ∧
      (∀ ph ∈ resolved.phases, ∀ a ∈ ph.actions,
        ∃ name, ph.slot.phaseName? p = some name ∧ a ∈ Registration.under name calls) ∧
      ∀ others, (∀ name, Registration.under name others = Registration.under name calls) →
        ∀ q, (Registry.ofCalls others).plan q = (Registry.ofCalls calls).plan q := by
  intro resolved
  have kept : resolved.phases.flatMap Phase.entries =
      firstsAfter [] (entriesOf (brought calls p) Slot.all) := plan_entries calls p
  refine ⟨plan_slots _ p, plan_ofCalls calls p, ?nodup, ?represented, ?registered, ?unmixed⟩
  case nodup =>
    rw [forms_of_steps, kept]
    exact firstsAfter_nodup ..
  case represented =>
    intro slot name resolves a registered
    have member : (slot, a) ∈ entriesOf (brought calls p) Slot.all :=
      mem_entriesOf.mpr (mem_brought.mpr ⟨name, resolves, registered⟩)
    have slots_ordered : Slot.all.Pairwise fun s t => Slot.all.idxOf s ≤ Slot.all.idxOf t := by decide
    have ordered := entriesOf_ordered (brought calls p) (fun _ => Nat.le_refl _) slots_ordered
    rcases isCovered_by_firsts (fun _ => Nat.le_refl _) [] ordered member with
      ⟨_, seen, _⟩ | ⟨entry, place, same, le⟩
    · contradiction
    · obtain ⟨ph, phase, own, action⟩ := mem_phase_iff.mp (kept ▸ place)
      exact ⟨ph, phase, own ▸ le, entry.2, action, same⟩
  case registered =>
    intro ph phase a action
    have place : (ph.slot, a) ∈ resolved.phases.flatMap Phase.entries :=
      mem_phase_iff.mpr ⟨ph, phase, rfl, action⟩
    rw [kept] at place
    exact mem_brought.mp (mem_entriesOf.mp (firstsAfter_subset _ _ place))
  case unmixed =>
    intro others same q
    rw [plan_ofCalls, plan_ofCalls, plan, plan, brought_congr same q]

end Resolution
end HostSetup
