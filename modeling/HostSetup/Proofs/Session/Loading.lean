import HostSetup.Proofs.Setup.RoundTrip
import HostSetup.Session

/-!
The setup a session works with: what was loaded, under the options, if that is valid. A setup that
was saved is loaded as it was, and options that are given again change nothing in it.
-/
namespace HostSetup

namespace Session

variable {o again : Options} {loaded : Except SetupFileError Setup} {c : Setup}

theorem effectiveSetup_loaded (o : Options) (base : Setup) :
    effectiveSetup o (.ok base) =
      ((o.override base).validate.mapError SessionError.invalid).map fun _ => o.override base := by
  cases valid : (o.override base).validate <;>
    simp [effectiveSetup, Except.mapError, bind, Except.bind, valid, pure, Except.pure, Except.map]

theorem effectiveSetup_eq_ok_iff :
    effectiveSetup o loaded = .ok c ↔
      ∃ base, loaded = .ok base ∧ (o.override base).validate = .ok () ∧ o.override base = c := by
  cases loaded with
  | error e => simp [effectiveSetup, Except.mapError, bind, Except.bind]
  | ok base =>
    rw [effectiveSetup_loaded]
    cases valid : (o.override base).validate <;> simp [Except.mapError, Except.map, valid]

theorem effectiveSetup_eq_error_iff {e : SessionError} :
    effectiveSetup o loaded = .error e ↔
      (∃ cause, loaded = .error cause ∧ .file cause = e) ∨
        ∃ base cause, loaded = .ok base ∧ (o.override base).validate = .error cause ∧
          .invalid cause = e := by
  cases loaded with
  | error cause => simp [effectiveSetup, Except.mapError, bind, Except.bind]
  | ok base =>
    rw [effectiveSetup_loaded]
    cases valid : (o.override base).validate <;> simp [Except.mapError, Except.map, valid]

end Session

/-- Of the options that change a setup, these have some of the others' and no more. -/
structure Options.Repeats (again o : Options) : Prop where
  python : again.python = none ∨ again.python = o.python
  aurHelper : again.aurHelper = none ∨ again.aurHelper = o.aurHelper
  timeout : again.timeout = none ∨ again.timeout = o.timeout
  continueOnError : again.continueOnError = true → o.continueOnError = true
  noRefresh : again.noRefresh = true → o.noRefresh = true

theorem getD_again {α : Type} {x y : Option α} (repeats : x = none ∨ x = y) (unset : α) :
    x.getD (y.getD unset) = y.getD unset := by
  rcases repeats with rfl | rfl
  · rfl
  · cases x <;> rfl

theorem orElse_again {α : Type} {x y : Option α} (repeats : x = none ∨ x = y) (unset : Option α) :
    (x <|> y <|> unset) = (y <|> unset) := by
  rcases repeats with rfl | rfl
  · rfl
  · cases x <;> rfl

theorem Options.override_again {again o : Options} (repeats : again.Repeats o) (base : Setup) :
    again.override (o.override base) = o.override base := by
  have goesOn : (again.continueOnError || (o.continueOnError || base.continueOnError)) =
      (o.continueOnError || base.continueOnError) := by
    have set := repeats.continueOnError
    grind
  have refreshes : (!again.noRefresh && (!o.noRefresh && base.refresh)) =
      (!o.noRefresh && base.refresh) := by
    have set := repeats.noRefresh
    grind
  simp only [override, getD_again repeats.python, getD_again repeats.aurHelper,
    orElse_again repeats.timeout, goesOn, refreshes]

namespace Session

variable {o again : Options} {loaded : Except SetupFileError Setup} {c : Setup}

/-- The setup of a session, however it was loaded, is loaded again from the text that is saved of it,
valid and the same, with no options or with some of those it was made with. So its registry, its
plans, its translator and how it is executed are the same as well. -/
theorem saved_setup_reloads (effective : effectiveSetup o loaded = .ok c) (repeats : again.Repeats o)
    (path : String) : effectiveSetup again (Setup.ofFile path (.ok c.fileText)) = .ok c := by
  obtain ⟨base, _, valid, rfl⟩ := effectiveSetup_eq_ok_iff.mp effective
  have same := Options.override_again repeats base
  rw [Setup.ofFile_fileText, effectiveSetup_eq_ok_iff]
  exact ⟨_, rfl, same.symm ▸ valid, same⟩

/-- A setup file, with an interpreter, a limit and no refresh from the options, of which the limit
is given again. -/
theorem saved_setup_reloads_limited :
    let base : Setup :=
      { phases := NameMap.empty.insert "common-first" [.run (.one "make")], python := "python2" }
    let o : Options := { python := some "python3.12", timeout := some 900, noRefresh := true }
    let again : Options := { timeout := some 900, nop := true }
    let loaded := Setup.ofFile "in" (.ok base.fileText)
    let c : Setup := { base with python := "python3.12", timeoutSecs := some 900, refresh := false }
    effectiveSetup o loaded = .ok c ∧ again.Repeats o ∧
      effectiveSetup again (Setup.ofFile "out" (.ok c.fileText)) = .ok c := by
  intro base o again loaded c
  have valid : c.validate = .ok () := by
    simp only [c, base]
    rfl
  have effective : effectiveSetup o loaded = .ok c :=
    effectiveSetup_eq_ok_iff.mpr ⟨base, Setup.ofFile_fileText "in" base, valid, rfl⟩
  have repeats : again.Repeats o := ⟨.inl rfl, .inl rfl, .inr rfl, by decide, by decide⟩
  exact ⟨effective, repeats, saved_setup_reloads effective repeats "out"⟩

end Session
end HostSetup
