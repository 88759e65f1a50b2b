import HostSetup.Proofs.Translation.Arguments
import HostSetup.Setup.Basic

/-!
Which replacement a package gets. The table has two levels, releases and their packages; an entry
that is put in changes what is found for its own package on its own release and leaves all else as
it was. So of any number of entries the last one for a package on the release of the host counts,
entries for other packages or releases do not matter, and a replacement is taken as it stands.
-/
namespace HostSetup

namespace PackageOverride

/-- The entry is about this package on the very release of the host. -/
def IsFor (p : Platform) (package : String) (o : PackageOverride) : Prop :=
  o.distro = p.distro ∧ o.version = p.version ∧ o.package = package

instance (p : Platform) (package : String) : DecidablePred (IsFor p package) := fun o =>
  inferInstanceAs (Decidable (o.distro = p.distro ∧ o.version = p.version ∧ o.package = package))

/-- The replacement that was given last for a package, or the package itself. -/
def lastReplacement (os : List PackageOverride) (p : Platform) (package : String) : String :=
  match (os.filter (IsFor p package)).getLast? with
  | some o => o.replacement
  | none => package

end PackageOverride

namespace Translator

theorem exists_packageCommand (t : Translator) (p : Platform) (a : Action) (tool : String) :
    ∃ program leading, t.packageCommand p a tool = .exec program (leading ++ t.packageArgs p a) := by
  unfold packageCommand
  dsimp only
  split
  · exact ⟨"sudo", tool :: a.kind.leadingArgs p.family, rfl⟩
  · exact ⟨tool, a.kind.leadingArgs p.family, rfl⟩

theorem words_resolved {t : Translator} {p : Platform} {a : Action} {command : Command}
    (kind : a.kind = .install) (translated : t.translate a p = .ok command) :
    a.payload.words.map (t.overrides.resolve p) <:+ command.args := by
  have made := t.invocation_of_translate p translated
  obtain ⟨tool, _, made⟩ := invocation_eq_packageCommand (.inl kind) made
  obtain ⟨program, leading, shape⟩ := exists_packageCommand t p a tool
  have packages : t.packageArgs p a = a.payload.words.map (t.overrides.resolve p) := by
    simp only [packageArgs, kind]
  rw [Command.args, made, shape, packages]
  exact List.suffix_append leading _

end Translator

namespace PackageOverrides

open PackageOverride (IsFor lastReplacement)

section Levels

variable {κ β : Type} [BEq κ] [LawfulBEq κ] [DecidableEq κ]

/-- What a table holds under a key, that of the first entry. -/
def held? (key : κ) (table : List (κ × β)) : Option β := (table.find? (·.1 == key)).map (·.2)

/-- A table with what it holds under a key changed, at its end if it held nothing. -/
def upsert (key : κ) (f : Option β → β) : List (κ × β) → List (κ × β)
  | [] => [(key, f none)]
  | (name, old) :: rest =>
    if name = key then (name, f (some old)) :: rest else (name, old) :: upsert key f rest

theorem held?_upsert (key other : κ) (f : Option β → β) (table : List (κ × β)) :
    held? other (upsert key f table) =
      if key = other then some (f (held? other table)) else held? other table := by
  induction table with
  | nil => by_cases same : key = other <;> simp [held?, upsert, same]
  | cons head rest ih =>
    obtain ⟨name, old⟩ := head
    simp only [held?] at ih ⊢
    rw [upsert]
    split
    · rename_i found
      subst found
      by_cases same : name = other <;> simp [same]
    · rename_i passed
      by_cases reached : name = other
      · subst reached
        simp [Ne.symm passed]
      · simpa [reached] using ih

theorem setReplacement_eq (package replacement : String) :
    setReplacement package replacement = upsert package fun _ => replacement := by
  funext table
  induction table with
  | nil => rfl
  | cons head rest ih => rw [setReplacement, upsert, ih]

theorem setRelease_eq (o : PackageOverride) :
    setRelease o =
      upsert (o.distro, o.version) fun old => setReplacement o.package o.replacement (old.getD []) := by
  funext table
  induction table with
  | nil => rfl
  | cons head rest ih =>
    rw [setRelease, upsert, ih]
    rfl

end Levels

theorem replacement?_eq (t : PackageOverrides) (distro version package : String) :
    t.replacement? distro version package = (held? (distro, version) t.releases).bind (held? package) := by
  rw [replacement?, held?]
  cases t.releases.find? (·.1 == (distro, version)) with
  | none => rfl
  | some entry =>
    change (entry.2.find? (·.1 == package)).bind (fun found => some found.2) = _
    exact Option.map_eq_bind.symm

/-- An entry is found for its own package on its own release, and hides nothing else. -/
theorem replacement?_insert (o : PackageOverride) (t : PackageOverrides) (p : Platform)
    (package : String) :
    (t.insert o).replacement? p.distro p.version package =
      if o.IsFor p package then some o.replacement
      else t.replacement? p.distro p.version package := by
  rw [replacement?_eq, insert, setRelease_eq, held?_upsert, replacement?_eq]
  by_cases release : (o.distro, o.version) = (p.distro, p.version)
  · obtain ⟨distro, version⟩ := Prod.mk.inj release
    -- the other packages of the release stay, also if it had none
    have others (old : Option Replacements) : held? package (old.getD []) = old.bind (held? package) := by
      cases old <;> rfl
    rw [if_pos release, Option.bind_some, setReplacement_eq, held?_upsert, others]
    by_cases same : o.package = package <;> simp [IsFor, distro, version, same]
  · have other : ¬o.IsFor p package := fun found => release (Prod.ext found.1 found.2.1)
    rw [if_neg release, if_neg other]

theorem replacement?_foldl (os : List PackageOverride) (t : PackageOverrides) (p : Platform)
    (package : String) :
    (os.foldl (fun t o => t.insert o) t).replacement? p.distro p.version package =
      ((os.filter (IsFor p package)).getLast?.map (·.replacement)).or
        (t.replacement? p.distro p.version package) := by
  induction os generalizing t with
  | nil => rfl
  | cons o rest ih =>
    rw [List.foldl_cons, ih, replacement?_insert]
    by_cases found : o.IsFor p package
    · -- the entry counts unless a later one is for the same package
      cases later : (rest.filter (IsFor p package)).getLast? <;>
        simp [found, later, List.getLast?_cons]
    · simp [found]

theorem resolve_ofList (os : List PackageOverride) (p : Platform) (package : String) :
    (ofList os).resolve p package = lastReplacement os p package := by
  have empty : ({} : PackageOverrides).replacement? p.distro p.version package = none := rfl
  rw [resolve, ofList, replacement?_foldl, empty, Option.or_none, lastReplacement]
  cases (os.filter (IsFor p package)).getLast? <;> rfl

/-- A package gets the replacement that the last entry for it on this very release gives, and stays
what it is if there is none; only the entries for it are looked at. The table of a setup is made of
its entries in their order. Each package of a command was looked up once: a replacement stands
there as it was given, also where there are entries for it. -/
theorem last_entry_counts (os : List PackageOverride) (p : Platform) (package : String) :
    let resolved := (ofList os).resolve p package
    resolved = lastReplacement os p package ∧
      (∀ others : List PackageOverride,
        others.filter (IsFor p package) = os.filter (IsFor p package) →
          (ofList others).resolve p package = resolved) ∧
      (∀ c : Setup, c.overrides = os → c.translator.overrides.resolve p package = resolved) ∧
      ∀ (t : Translator) (a : Action) (command : Command),
        t.overrides = ofList os → a.kind = .install → t.translate a p = .ok command →
          a.payload.words.map (lastReplacement os p) <:+ command.args := by
  intro resolved
  have exact_entry : resolved = lastReplacement os p package := resolve_ofList os p package
  refine ⟨exact_entry, ?others, ?setup, ?command⟩
  case others =>
    intro others same
    rw [exact_entry, resolve_ofList, lastReplacement, same, lastReplacement]
  case setup =>
    rintro c rfl
    rfl
  case command =>
    intro t a command table kind translated
    have once : t.overrides.resolve p = lastReplacement os p := by
      funext word
      rw [table, resolve_ofList]
    exact once ▸ Translator.words_resolved kind translated

/-- The last of two entries, and no way from one entry to the next. -/
example :
    let old : PackageOverride := ⟨"ubuntu", "22.04", "gcc", "gcc-11"⟩
    let table := ofList [old, { old with replacement := "gcc-12" }, ⟨"ubuntu", "22.04", "gcc-12", "clang"⟩]
    table.resolve ⟨.debian, "ubuntu", "22.04", ""⟩ "gcc" = "gcc-12" := by
  decide

end PackageOverrides
end HostSetup
