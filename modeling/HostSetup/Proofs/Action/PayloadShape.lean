import HostSetup.Proofs.Action.NormalForm
import HostSetup.Proofs.Plan.Resolution
import HostSetup.Proofs.Text.Blank
import HostSetup.Proofs.Text.Substitution

/-!
Normal forms and the shape of payloads. For packages the shape makes no difference. A command line is
trimmed if it is one text and joined as it is if it comes in pieces, so the normal form of a line in
pieces is one text that is trimmed when it is read again. Where there is nothing to trim, the
normal form is stable, has the command of the action, and is the same for a line and for a list
of just this line; where there is, none of this holds.
-/
namespace HostSetup

/-- The kinds whose payload counts as one text. -/
def ActionKind.readsText : ActionKind → Bool
  | .run | .refresh => true
  | .install | .pipInstall => false

theorem Payload.words_words (payload : Payload) : (Payload.many payload.words).words = payload.words := by
  have own : ∀ word ∈ payload.words, Text.words word = [word] := by
    intro word member
    cases payload with
    | one s => exact Text.words_of_mem_words member
    | many items =>
      obtain ⟨item, _, member⟩ := List.mem_flatMap.mp member
      exact Text.words_of_mem_words member
  change payload.words.flatMap Text.words = payload.words
  rw [List.flatMap_congr own, List.flatMap_singleton']

namespace Action

/-- No blank stands at the ends of the payload's text, if the kind reads it. -/
def IsTidy (a : Action) : Prop := a.kind.readsText = true → Text.trim a.payload.text = a.payload.text

theorem view_normalized_iff (a : Action) : a.normalized.view = a.view ↔ a.IsTidy := by
  obtain ⟨kind, payload, options, guard⟩ := a
  cases kind <;>
    simp [view, normalized, IsTidy, ActionKind.readsText, Payload.words_words, Payload.text]

theorem normalized_normalized_iff (a : Action) : a.normalized.normalized = a.normalized ↔ a.IsTidy := by
  rw [normalized_eq_iff, view_normalized_iff]
  exact ⟨fun same => same.2.2.2, fun tidy => ⟨rfl, rfl, rfl, tidy⟩⟩

theorem normalized_one_iff (a : Action) (s : String) :
    { a with payload := .one s }.normalized = { a with payload := .many [s] }.normalized ↔
      (a.kind.readsText = true → Text.trim s = s) := by
  obtain ⟨kind, payload, options, guard⟩ := a
  rw [normalized_eq_iff]
  cases kind <;>
    simp [view, ActionKind.readsText, Payload.words, Payload.text]

end Action

namespace Translator

variable (t : Translator)

/-- Blanks at the ends of a line are in no placeholder. -/
theorem expand_between {front back : String} (before : ∀ c ∈ front.toList, Text.isBlank c = true)
    (behind : ∀ c ∈ back.toList, Text.isBlank c = true) (line : String) :
    t.expand (front ++ line ++ back) = front ++ t.expand line ++ back := by
  have apart {word : String} (solid : word.toList.any Text.isBlank = false) {blanks : String}
      (blank : ∀ c ∈ blanks.toList, Text.isBlank c = true) : ∀ c ∈ blanks.toList, c ∉ word.toList := by
    intro c left right
    exact List.any_eq_false.mp solid c right (blank c left)
  have python : "{python}".toList.any Text.isBlank = false := by decide
  have readies : "{readies}".toList.any Text.isBlank = false := by decide
  rw [expand, expand, Text.substitute_between (by decide) (apart python before) (apart python behind),
    Text.substitute_between (by decide) (apart readies before) (apart readies behind)]

theorem expand_trim_iff (line : String) :
    t.expand (Text.trim line) = t.expand line ↔ Text.trim line = line := by
  constructor
  · intro same
    obtain ⟨front, back, whole, before, behind⟩ := Text.exists_ends line
    -- what was trimmed off is still there after the expansion, so it was nothing
    have lengths := congrArg String.length same
    rw [congrArg t.expand whole, t.expand_between before behind, String.length_append,
      String.length_append] at lengths
    have no_front : front = "" := String.length_eq_zero_iff.mp (by omega)
    have no_back : back = "" := String.length_eq_zero_iff.mp (by omega)
    simpa [no_front, no_back] using whole.symm
  · intro trimmed
    rw [trimmed]

theorem runLine_eq_iff (payload other : Payload) :
    t.runLine payload = t.runLine other ↔ t.expand payload.text = t.expand other.text := by
  simp only [runLine]
  generalize t.expand payload.text = line, t.expand other.text = otherLine
  have apart (differ : line.isEmpty ≠ otherLine.isEmpty) : line ≠ otherLine :=
    fun same => differ (congrArg String.isEmpty same)
  cases empty : line.isEmpty with
  | true =>
    cases otherEmpty : otherLine.isEmpty with
    | true => simp [String.isEmpty_iff.mp empty, String.isEmpty_iff.mp otherEmpty]
    | false => simp [apart (by simp [empty, otherEmpty])]
  | false =>
    cases otherEmpty : otherLine.isEmpty with
    | true => simp [apart (by simp [empty, otherEmpty])]
    | false => simp

theorem translate_eq_iff (a b : Action) (p : Platform) :
    t.translate a p = t.translate b p ↔ t.invocation a p = t.invocation b p := by
  constructor
  · intro same
    simp only [translate] at same
    cases left : t.invocation a p <;> cases right : t.invocation b p <;>
      simp_all [Except.map]
  · intro same
    rw [translate, translate, same]

theorem translate_normalized_iff (a : Action) (p : Platform) :
    t.translate a.normalized p = t.translate a p ↔
      (a.kind = .run → Text.trim a.payload.text = a.payload.text) := by
  constructor
  · intro same kind
    rw [translate_eq_iff] at same
    have line : a.normalized.payload = .one a.payload.text := by simp [Action.normalized, kind]
    have kinds : a.normalized.kind = .run := kind
    simp only [invocation, kind, kinds, ActionKind.isAgnostic, decide_true, not_true, and_false,
      if_false, runLine_eq_iff, line] at same
    exact (t.expand_trim_iff _).mp same
  · intro trimmed
    cases kind : a.kind with
    | refresh => simp only [translate, invocation, Action.normalized, kind]
    | run =>
      have tidy : a.IsTidy := fun _ => trimmed kind
      exact translate_congr (a.normalized_normalized_iff.mpr tidy) t p
    | install | pipInstall =>
      have tidy : a.IsTidy := by simp [Action.IsTidy, kind, ActionKind.readsText]
      exact translate_congr (a.normalized_normalized_iff.mpr tidy) t p

end Translator

namespace Action

/-- The normal form of an action is stable, and has its command on every host, exactly if there is
nothing to trim from the text that the action reads; and of one text and the list of just this text
both are placed in some plan, as two actions, unless there is nothing to trim from it or only its
words are read. -/
theorem normal_form_faithful_iff (a : Action) :
    (a.normalized.normalized = a.normalized ↔ a.IsTidy) ∧
      (∀ (t : Translator) (p : Platform),
        t.translate a.normalized p = t.translate a p ↔
          (a.kind = .run → Text.trim a.payload.text = a.payload.text)) ∧
      ∀ s : String,
        let line := { a with payload := .one s }
        let list := { a with payload := .many [s] }
        (line.normalized = list.normalized ↔ (a.kind.readsText = true → Text.trim s = s)) ∧
          ((∀ (calls : List Registration) (p : Platform),
            let placed := ((Registry.ofCalls calls).plan p).steps.map (·.2)
            ¬(line ∈ placed ∧ list ∈ placed)) ↔ (a.kind.readsText = true → Text.trim s = s)) := by
  refine ⟨a.normalized_normalized_iff, fun t p => t.translate_normalized_iff a p, ?_⟩
  intro s line list
  have differ : line ≠ list := by simp [line, list]
  have same_form := a.normalized_one_iff s
  exact ⟨same_form, (Resolution.never_together_iff differ).trans same_form⟩

/-- A command line with a blank at both ends: in a list it has another normal form than by itself,
one that is not stable and has another command, so that both are placed. -/
theorem padded_line_has_two_forms :
    let line := Action.run (.one " echo hi ")
    let list := Action.run (.many [" echo hi "])
    let p : Platform := ⟨.debian, "ubuntu", "22.04", "x86_64"⟩
    let t : Translator := {}
    list.normalized.normalized ≠ list.normalized ∧
      t.translate list.normalized p ≠ t.translate list p ∧
      line.normalized ≠ list.normalized ∧
      ((Registry.ofCalls [.single "common-first" line, .single "common-first" list]).plan p).steps =
        [("common-first", line), ("common-first", list)] := by
  decide

end Action
end HostSetup
