import HostSetup.Proofs.Plan.Resolution

/-!
The slots that hosts fill each in their own way, between those that all share. What they hold is what
was registered for them, without what the common phase before them brought already. So a host
counts as unmatched also when phases of its own were registered, if they only repeat that phase.
-/
namespace HostSetup

namespace Slot

/-- The slots between the common ones. -/
def ofHost : List Slot := [.familyCompat, .distro, .os]

theorem mem_ofHost_iff {slot : Slot} : slot ∈ ofHost ↔ slot.isCommon = false := by
  cases slot <;> decide

end Slot

namespace Resolution

variable {calls : List Registration} {p : Platform}

/-- What was registered for some slots of a host. -/
def registered (calls : List Registration) (p : Platform) (slots : List Slot) : List Entry :=
  entriesOf (brought calls p) slots

theorem mem_registered {slots : List Slot} {entry : Entry} :
    entry ∈ registered calls p slots ↔ entry.1 ∈ slots ∧ entry.2 ∈ brought calls p entry.1 := by
  obtain ⟨slot, a⟩ := entry
  simp only [registered, entriesOf, List.mem_flatMap, List.mem_map, Prod.mk.injEq]
  grind

theorem registered_all :
    registered calls p Slot.all =
      registered calls p [.commonFirst] ++ registered calls p Slot.ofHost ++
        registered calls p [.commonLast] := by
  simp [registered, entriesOf, Slot.all, Slot.ofHost]

/-- The slots between the common ones hold the first of each normal form that is new to the plan. -/
theorem mem_placed_iff {entry : Entry} (own : entry.1 ∈ Slot.ofHost) :
    entry ∈ ((Registry.ofCalls calls).plan p).phases.flatMap Phase.entries ↔
      entry ∈ firstsAfter (registered calls p [.commonFirst]) (registered calls p Slot.ofHost) := by
  have elsewhere (slot : Slot) (common : slot.isCommon = true) (before : List Entry) :
      entry ∉ firstsAfter before (registered calls p [slot]) := by
    intro kept
    have same := List.mem_singleton.mp (mem_registered.mp (firstsAfter_subset _ _ kept)).1
    rw [Slot.mem_ofHost_iff, same, common] at own
    contradiction
  have first := elsewhere .commonFirst rfl []
  have last := elsewhere .commonLast rfl
  rw [plan_entries, firsts]
  change entry ∈ firstsAfter [] (registered calls p Slot.all) ↔ _
  simp only [registered_all, firstsAfter_append, List.nil_append, List.mem_append, first, last,
    false_or, or_false]

theorem isFresh_of_placed {ph : Phase} (phase : ph ∈ ((Registry.ofCalls calls).plan p).phases)
    (own : ph.slot ∈ Slot.ofHost) {a : Action} (action : a ∈ ph.actions) :
    IsFresh (registered calls p [.commonFirst]) (ph.slot, a) :=
  isFresh_of_mem_firstsAfter ((mem_placed_iff own).mp (mem_entries phase action))

theorem isUnmatched_iff_placed_nil :
    ((Registry.ofCalls calls).plan p).isUnmatched p = true ↔
      (p.family = .other ∨ p.distro = "") ∧
        firstsAfter (registered calls p [.commonFirst]) (registered calls p Slot.ofHost) = [] := by
  simp only [Plan.isUnmatched, Bool.and_eq_true, Bool.or_eq_true, decide_eq_true_eq,
    String.isEmpty_iff, List.all_eq_true, List.isEmpty_iff]
  refine and_congr_right fun _ => ⟨?nothing, ?empty⟩
  case nothing =>
    intro empty
    rw [List.eq_nil_iff_forall_not_mem]
    intro entry kept
    have own := (mem_registered.mp (firstsAfter_subset _ _ kept)).1
    obtain ⟨ph, phase, slot, action⟩ := mem_phase_iff.mp ((mem_placed_iff own).mpr kept)
    rcases empty ph phase with common | none
    · rw [Slot.mem_ofHost_iff, ← slot, common] at own
      contradiction
    · simp [none] at action
  case empty =>
    intro nothing ph phase
    cases common : ph.slot.isCommon with
    | true => exact .inl rfl
    | false =>
      refine .inr (List.eq_nil_iff_forall_not_mem.mpr fun a action => ?_)
      have own := Slot.mem_ofHost_iff.mpr common
      have kept := (mem_placed_iff own).mp (mem_entries phase action)
      rw [nothing] at kept
      contradiction

/-- A host is unmatched if it is not known, and whatever was registered for its family, its
distribution or its operating system has the normal form of something registered for all hosts to
come first. -/
theorem isUnmatched_iff (calls : List Registration) (p : Platform) :
    ((Registry.ofCalls calls).plan p).isUnmatched p = true ↔
      (p.family = .other ∨ p.distro = "") ∧
        ∀ slot ∈ [Slot.familyCompat, .distro, .os], ∀ name, slot.phaseName? p = some name →
          ∀ a ∈ Registration.under name calls,
            ∃ b ∈ Registration.under "common-first" calls, b.normalized = a.normalized := by
  have opening (slot : Slot) (a : Action) :
      ¬IsFresh (registered calls p [.commonFirst]) (slot, a) ↔
        ∃ b ∈ Registration.under "common-first" calls, b.normalized = a.normalized := by
    simp [not_isFresh_iff, registered, entriesOf, brought, Slot.phaseName?, Slot.name]
  rw [isUnmatched_iff_placed_nil, firstsAfter_eq_nil_iff]
  refine and_congr_right fun _ => ⟨?each, ?all⟩
  case each =>
    intro stale slot own name resolves a member
    have place : (slot, a) ∈ registered calls p Slot.ofHost :=
      mem_registered.mpr ⟨own, mem_brought.mpr ⟨name, resolves, member⟩⟩
    exact (opening slot a).mp (stale _ place)
  case all =>
    intro repeated entry place
    obtain ⟨own, member⟩ := mem_registered.mp place
    obtain ⟨name, resolves, member⟩ := mem_brought.mp member
    exact (opening entry.1 entry.2).mpr (repeated entry.1 own name resolves entry.2 member)

/-- A host with a phase of its own that counts as unmatched, since the phase repeats the common one. -/
theorem unmatched_with_own_phase :
    let git := Action.install (.one "git")
    let p : Platform := ⟨.other, "gentoo", "", "x86_64"⟩
    let calls := [Registration.single "common-first" git, .single "gentoo" git]
    ¬(((Registry.ofCalls calls).plan p).isUnmatched p = true ↔
      (p.family = .other ∨ p.distro = "") ∧
        ∀ slot ∈ [Slot.familyCompat, .distro, .os], ∀ name, slot.phaseName? p = some name →
          Registration.under name calls = []) := by
  intro git p calls accurate
  have unmatched : ((Registry.ofCalls calls).plan p).isUnmatched p = true := by decide
  have none := (accurate.mp unmatched).2 .distro (by decide) "gentoo" (by decide)
  have own : Registration.under "gentoo" calls = [git] := by decide
  rw [own] at none
  contradiction

end Resolution
end HostSetup
