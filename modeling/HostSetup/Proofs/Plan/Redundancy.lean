import Mathlib.Data.List.Pairwise
import HostSetup.Proofs.Action.PayloadShape
import HostSetup.Proofs.Plan.HostSlots
import HostSetup.Proofs.Translation.Arguments

/-!
Actions in a plan that another one makes redundant. What an action reads of its payload shows in the
command that some translator makes of it, so two actions with different normal forms are told apart
somewhere, and a plan needs both of them. The exception are refreshes: they read nothing of their
payload, but its text is part of their normal form.
-/
namespace HostSetup

namespace Translator

/-- Puts each placeholder in for itself. -/
def verbatim : Translator := { python := "{python}", readies := "{readies}" }

theorem expand_verbatim (line : String) : verbatim.expand line = line := by
  rw [expand, verbatim, Text.substitute_self (by decide), Text.substitute_self (by decide)]

theorem text_eq_of_verbatim {a b : Action} {p : Platform} (kind : a.kind = .run)
    (kinds : a.kind = b.kind) (same : verbatim.translate a p = verbatim.translate b p) :
    a.payload.text = b.payload.text := by
  have other : b.kind = .run := kinds ▸ kind
  rw [translate_eq_iff] at same
  simp only [invocation, kind, other, ActionKind.isAgnostic, decide_true, not_true, and_false,
    if_false, runLine_eq_iff, expand_verbatim] at same
  exact same

end Translator

namespace Action

variable {a b : Action}

/-- One of the two can be left out where the other is done: they are of one kind and stand under the
same conditions, and every translator has the same answer for both on every host. -/
structure Interchangeable (a b : Action) : Prop where
  kind : a.kind = b.kind
  options : a.options = b.options
  guard : a.guard = b.guard
  translation : ∀ (t : Translator) (p : Platform), t.translate a p = t.translate b p

theorem interchangeable_of_normalized (forms : a.normalized = b.normalized) : a.Interchangeable b := by
  obtain ⟨kinds, options, guards, _⟩ := normalized_eq_iff.mp forms
  exact ⟨kinds, options, guards, Translator.translate_congr forms⟩

theorem interchangeable_of_refresh (kind : a.kind = .refresh) (other : b.kind = .refresh)
    (options : a.options = b.options) (guards : a.guard = b.guard) : a.Interchangeable b := by
  refine ⟨kind.trans other.symm, options, guards, ?_⟩
  intro t p
  simp only [Translator.translate, Translator.invocation, kind, other]

namespace Interchangeable

theorem symm (same : a.Interchangeable b) : b.Interchangeable a :=
  ⟨same.kind.symm, same.options.symm, same.guard.symm, fun t p => (same.translation t p).symm⟩

theorem trans {c : Action} (first : a.Interchangeable b) (second : b.Interchangeable c) :
    a.Interchangeable c where
  kind := first.kind.trans second.kind
  options := first.options.trans second.options
  guard := first.guard.trans second.guard
  translation t p := (first.translation t p).trans (second.translation t p)

theorem view (same : a.Interchangeable b) (reads : a.kind ≠ .refresh) : a.view = b.view := by
  have kinds := same.kind
  unfold Action.view
  rw [← kinds]
  cases kind : a.kind with
  | refresh => contradiction
  | run =>
    -- a line shows where nothing in it is replaced, whatever the host
    have lines := same.translation .verbatim default
    exact congrArg View.text (Translator.text_eq_of_verbatim kind kinds lines)
  | install =>
    have packages := same.translation {} ⟨.debian, "", "", ""⟩
    exact congrArg View.words
      (Translator.words_eq_of_bareTranslation_eq (.inl (kinds ▸ kind)) kinds packages)
  | pipInstall =>
    have packages := same.translation {} ⟨.debian, "", "", ""⟩
    exact congrArg View.words
      (Translator.words_eq_of_bareTranslation_eq (.inr (kinds ▸ kind)) kinds packages)

theorem normalized (same : a.Interchangeable b) (reads : a.kind ≠ .refresh) :
    a.normalized = b.normalized :=
  normalized_eq_iff.mpr ⟨same.kind, same.options, same.guard, same.view reads⟩

end Interchangeable

/-- The normal form compares what it must, and of a refresh one thing more. -/
theorem normalized_eq_iff_interchangeable :
    a.normalized = b.normalized ↔
      a.Interchangeable b ∧ (a.kind = .refresh → a.payload.text = b.payload.text) := by
  constructor
  · intro forms
    refine ⟨interchangeable_of_normalized forms, ?_⟩
    intro refreshes
    obtain ⟨kinds, _, _, views⟩ := normalized_eq_iff.mp forms
    simpa [view, ← kinds, refreshes] using views
  · rintro ⟨same, texts⟩
    by_cases refreshes : a.kind = .refresh
    · have views : a.view = b.view := by simp [view, ← same.kind, refreshes, texts refreshes]
      exact normalized_eq_iff.mpr ⟨same.kind, same.options, same.guard, views⟩
    · exact same.normalized refreshes

end Action

namespace Resolution

variable {calls : List Registration} {p : Platform}

theorem actions_placed :
    ((Registry.ofCalls calls).plan p).steps.map (·.2) =
      (firsts (registered calls p Slot.all)).map (·.2) :=
  (actions_of_steps _).trans (congrArg (List.map (·.2)) (plan_entries calls p))

theorem registered_of_placed {step : Plan.Step}
    (placed : step ∈ ((Registry.ofCalls calls).plan p).steps) :
    step.2 ∈ (registered calls p Slot.all).map (·.2) := by
  have action : step.2 ∈ ((Registry.ofCalls calls).plan p).steps.map (·.2) :=
    List.mem_map_of_mem placed
  rw [actions_placed] at action
  obtain ⟨entry, kept, eq⟩ := List.mem_map.mp action
  exact eq ▸ List.mem_map_of_mem (firstsAfter_subset _ _ kept)

theorem form_placed {a : Action} (offered : a ∈ (registered calls p Slot.all).map (·.2)) :
    ∃ step ∈ ((Registry.ofCalls calls).plan p).steps, step.2.normalized = a.normalized := by
  obtain ⟨entry, member, rfl⟩ := List.mem_map.mp offered
  obtain ⟨first, kept, same⟩ := exists_first member
  have action : first.2 ∈ ((Registry.ofCalls calls).plan p).steps.map (·.2) := by
    rw [actions_placed]
    exact List.mem_map_of_mem kept
  obtain ⟨step, placed, eq⟩ := List.mem_map.mp action
  exact ⟨step, placed, eq ▸ same⟩

theorem interchangeable_iff_refreshes (calls : List Registration) (p : Platform) :
    ((Registry.ofCalls calls).plan p).steps.Pairwise fun earlier later =>
      earlier.2.Interchangeable later.2 ↔
        earlier.2.kind = .refresh ∧ later.2.kind = .refresh ∧
          earlier.2.options = later.2.options ∧ earlier.2.guard = later.2.guard := by
  have forms := List.pairwise_map.mp (nodup_forms calls p)
  refine forms.imp ?_
  intro earlier later differ
  constructor
  · intro same
    by_cases refreshes : earlier.2.kind = .refresh
    · exact ⟨refreshes, same.kind ▸ refreshes, same.options, same.guard⟩
    · exact absurd (same.normalized refreshes) differ
  · rintro ⟨kind, other, options, guards⟩
    exact Action.interchangeable_of_refresh kind other options guards

/-- Of two actions at different places of a plan, one is redundant exactly if both are refreshes with
the same options and the same guard. So a plan is free of redundant actions exactly if, among all
that was registered for the host, refreshes that agree in these have the same text. -/
theorem redundant_iff_refreshes (calls : List Registration) (p : Platform) :
    let steps := ((Registry.ofCalls calls).plan p).steps
    let offered := (registered calls p Slot.all).map (·.2)
    (steps.Pairwise fun earlier later =>
      earlier.2.Interchangeable later.2 ↔
        earlier.2.kind = .refresh ∧ later.2.kind = .refresh ∧
          earlier.2.options = later.2.options ∧ earlier.2.guard = later.2.guard) ∧
      ((steps.Pairwise fun earlier later => ¬earlier.2.Interchangeable later.2) ↔
        ∀ a ∈ offered, ∀ b ∈ offered, a.kind = .refresh → b.kind = .refresh →
          a.options = b.options → a.guard = b.guard → a.payload.text = b.payload.text) := by
  intro steps offered
  refine ⟨interchangeable_iff_refreshes calls p, ?texts, ?free⟩
  case texts =>
    intro free a offered_a b offered_b kind other options guards
    obtain ⟨first, placed, form⟩ := form_placed offered_a
    obtain ⟨second, placed', form'⟩ := form_placed offered_b
    have same : first.2.Interchangeable second.2 :=
      (Action.interchangeable_of_normalized form).trans
        ((Action.interchangeable_of_refresh kind other options guards).trans
          (Action.interchangeable_of_normalized form').symm)
    -- the two stand at one place, since they are interchangeable
    have one : first = second := by
      by_contra apart
      have symmetric : Std.Symm fun f g : Plan.Step => ¬f.2.Interchangeable g.2 :=
        ⟨fun _ _ differ same => differ same.symm⟩
      exact free.forall placed placed' apart same
    have forms : a.normalized = b.normalized := form.symm.trans (one ▸ form')
    exact (Action.normalized_eq_iff_interchangeable.mp forms).2 kind
  case free =>
    intro texts
    have forms := List.pairwise_map.mp (nodup_forms calls p)
    refine forms.imp_of_mem ?_
    intro earlier later placed placed' differ same
    refine differ (Action.normalized_eq_iff_interchangeable.mpr ⟨same, ?_⟩)
    intro kind
    exact texts _ (registered_of_placed placed) _ (registered_of_placed placed') kind
      (same.kind ▸ kind) same.options same.guard

/-- A refresh without a payload, and one with a payload, which nothing reads: both are placed. -/
theorem labelled_refresh_is_repeated :
    let plain := Action.refresh
    let labelled : Action := { Action.refresh with payload := .one "metadata" }
    let p : Platform := ⟨.debian, "ubuntu", "22.04", "x86_64"⟩
    plain.Interchangeable labelled ∧
      ((Registry.ofCalls [.single "common-first" plain, .single "common-first" labelled]).plan p).steps =
        [("common-first", plain), ("common-first", labelled)] := by
  refine ⟨Action.interchangeable_of_refresh rfl rfl rfl rfl, ?_⟩
  decide

end Resolution
end HostSetup
