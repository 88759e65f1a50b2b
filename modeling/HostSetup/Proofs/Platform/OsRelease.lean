import HostSetup.Proofs.Platform.Assignment
import Mathlib.Logic.Relation

/-!
What of an os-release file does not matter. Three keys are read, of each the last assignment; so lines
that do not assign to them may come and go, and so may assignments that a later line makes again. Of
the values that are read neither the quotes count nor, in names of distributions, the case of ASCII
letters, nor, for distributions told apart by their major version, what follows the first dot.
-/
namespace HostSetup

theorem Family.ofDistro?_ne_macos (id : String) : ofDistro? id ≠ some .macos := by
  unfold ofDistro?
  split
  · simp
  · split
    · simp
    · split <;> simp

/-- The platform by what the three keys hold. -/
def Platform.ofValues (id like version : Option String) (arch : String) : Platform :=
  let distro := Text.lowercase (id.getD "")
  let family := ((Family.ofDistro? distro).or (like.bind OsRelease.likeFamily?)).getD .other
  let release := version.getD ""
  ⟨family, distro, if distro ∈ OsRelease.majorOnly then OsRelease.majorVersion release else release, arch⟩

namespace OsRelease

open Text (isBlank trim)

section Values

variable {id like version otherVersion otherId otherLike : Option String}

theorem lowercase_getD (s : Option String) :
    Text.lowercase ((s.map String.toLower).getD "") = Text.lowercase (s.getD "") := by
  cases s with
  | none => rfl
  | some s => exact Text.lowercase_toLower s

theorem likeFamily?_toLower (like : String) : likeFamily? like.toLower = likeFamily? like := by
  simp only [likeFamily?, Text.words_toLower, List.findSome?_map, Function.comp_def,
    Text.lowercase_toLower]

theorem ofValues_of_toLower (ids : otherId.map String.toLower = id.map String.toLower)
    (likes : otherLike.map String.toLower = like.map String.toLower) (arch : String) :
    Platform.ofValues otherId otherLike version arch = Platform.ofValues id like version arch := by
  have distro : Text.lowercase (otherId.getD "") = Text.lowercase (id.getD "") := by
    rw [← lowercase_getD, ids, lowercase_getD]
  have families (s : Option String) : (s.map String.toLower).bind likeFamily? = s.bind likeFamily? := by
    cases s with
    | none => rfl
    | some s => exact likeFamily?_toLower s
  have family : otherLike.bind likeFamily? = like.bind likeFamily? := by
    rw [← families, likes, families]
  simp only [Platform.ofValues, distro, family]

theorem ofValues_of_major (major : Text.lowercase (id.getD "") ∈ majorOnly)
    (same : otherVersion.map majorVersion = version.map majorVersion) (arch : String) :
    Platform.ofValues id like otherVersion arch = Platform.ofValues id like version arch := by
  have outside (s : Option String) : majorVersion (s.getD "") = (s.map majorVersion).getD "" := by
    cases s <;> rfl
  simp only [Platform.ofValues, if_pos major, outside, same]

theorem likeFamily?_ne_macos (like : String) : likeFamily? like ≠ some .macos := by
  intro found
  obtain ⟨id, _, family⟩ := List.exists_of_findSome?_eq_some found
  exact Family.ofDistro?_ne_macos _ family

theorem family_ofValues_ne_macos (id like version : Option String) (arch : String) :
    (Platform.ofValues id like version arch).family ≠ .macos := by
  simp only [Platform.ofValues]
  cases known : Family.ofDistro? (Text.lowercase (id.getD "")) with
  | some family =>
    rintro rfl
    exact Family.ofDistro?_ne_macos _ known
  | none =>
    cases similar : like.bind likeFamily? with
    | none => simp
    | some family =>
      obtain ⟨s, _, found⟩ := Option.bind_eq_some_iff.mp similar
      rintro rfl
      exact likeFamily?_ne_macos s found

end Values

section Files

/-- No line goes on behind a line feed. -/
def Single (lines : List String) : Prop := ∀ line ∈ lines, '\n' ∉ line.toList

variable {lines edited : List String} (single : Single lines)

include single

theorem ofOsRelease_joinLines (arch : String) :
    Platform.ofOsRelease (Text.joinLines lines) arch =
      Platform.ofValues (held? "ID" lines) (held? "ID_LIKE" lines) (held? "VERSION_ID" lines) arch := by
  simp only [Platform.ofOsRelease, Platform.ofValues, lookup?_joinLines single]
  cases Family.ofDistro? (Text.lowercase ((held? "ID" lines).getD "")) <;> rfl

theorem distro_joinLines (arch : String) :
    (Platform.ofOsRelease (Text.joinLines lines) arch).distro =
      Text.lowercase ((held? "ID" lines).getD "") := by
  rw [ofOsRelease_joinLines single]
  rfl

theorem family_joinLines (arch : String) :
    (Platform.ofOsRelease (Text.joinLines lines) arch).family ≠ .macos := by
  rw [ofOsRelease_joinLines single]
  exact family_ofValues_ne_macos _ _ _ _

end Files

/-- The keys that are read. -/
def readKeys : List String := ["ID", "ID_LIKE", "VERSION_ID"]

/-- A line that has no say in which platform it is. -/
inductive Idle : String → Prop
  | blank {line : String} (blank : ∀ c ∈ line.toList, isBlank c = true) : Idle line
  | comment {line : String} (marked : (trim line).toList.head? = some '#') : Idle line
  | bare {line : String} (absent : '=' ∉ line.toList) : Idle line
  | other {name raw : String} (whole : '=' ∉ name.toList) (unread : trim name ∉ readKeys) :
    Idle (name ++ "=" ++ raw)

/-- The changes of a file, line by line, that leave the platform what it is. -/
inductive Edit : List String → List String → Prop
  | insert (before after : List String) {line : String} (idle : Idle line)
    (single : '\n' ∉ line.toList) : Edit (before ++ after) (before ++ line :: after)
  /-- An assignment goes that a later line makes again. -/
  | remove (before after : List String) {name raw later held : String} (whole : '=' ∉ name.toList)
    (again : later ++ "=" ++ held ∈ after) (laterWhole : '=' ∉ later.toList)
    (same : trim later = trim name) : Edit (before ++ (name ++ "=" ++ raw) :: after) (before ++ after)
  /-- A value is quoted in one of two ways, with blanks around the line, the key and the quotes. -/
  | quote (before after : List String) {name v mark a b c d : String} (whole : '=' ∉ name.toList)
    (bare : Bare v) (marks : mark = "\"" ∨ mark = "'")
    (blank : ∀ s ∈ [a, b, c, d], ∀ x ∈ s.toList, isBlank x = true ∧ x ≠ '\n') :
    Edit (before ++ (name ++ "=" ++ v) :: after)
      (before ++ ((a ++ name ++ b) ++ "=" ++ (c ++ (mark ++ v ++ mark) ++ d)) :: after)
  /-- The case of ASCII letters changes in the name of a distribution. -/
  | recase (before after : List String) {name raw other : String} (whole : '=' ∉ name.toList)
    (key : trim name = "ID" ∨ trim name = "ID_LIKE") (same : other.toLower = raw.toLower) :
    Edit (before ++ (name ++ "=" ++ raw) :: after) (before ++ (name ++ "=" ++ other) :: after)
  /-- What follows a dot of the release changes, where only its major version counts. -/
  | minor (before after : List String) {name front back other : String} (whole : '=' ∉ name.toList)
    (key : trim name = "VERSION_ID") (single : '\n' ∉ other.toList)
    (major : (Platform.ofOsRelease (Text.joinLines
      (before ++ (name ++ "=" ++ (front ++ "." ++ back)) :: after)) "").distro ∈ majorOnly) :
    Edit (before ++ (name ++ "=" ++ (front ++ "." ++ back)) :: after)
      (before ++ (name ++ "=" ++ (front ++ "." ++ other)) :: after)

section Keys

variable {key : String} (read : key ∈ readKeys)

include read

theorem unmarked_of_read : key.toList.head? ≠ some '#' := by
  simp only [readKeys, List.mem_cons, List.not_mem_nil, or_false] at read
  rcases read with rfl | rfl | rfl <;> decide

theorem valueFor?_read {name : String} (whole : '=' ∉ name.toList) (raw : String) :
    valueFor? key (name ++ "=" ++ raw) = if trim name = key then some (value raw) else none :=
  valueFor?_line (unmarked_of_read read) whole raw

theorem valueFor?_idle {line : String} (idle : Idle line) : valueFor? key line = none := by
  cases idle with
  | blank blank =>
    have empty : trim line = trim "" := by
      have around : trim (line ++ "" ++ "") = trim "" := Text.trim_between blank (by simp) ""
      rwa [String.append_empty, String.append_empty] at around
    rw [valueFor?, assignment?_congr empty]
    rfl
  | comment marked => simp [valueFor?, assignment?, marked]
  | bare absent =>
    have absent : '=' ∉ (trim line).toList := by
      intro member
      refine absent ?_
      obtain ⟨front, back, whole, _⟩ := Text.exists_ends line
      rw [whole]
      simp [member]
    simp [valueFor?, assignment?, Text.cut?_eq_none absent]
  | other whole unread =>
    rw [valueFor?_read read whole, if_neg]
    rintro rfl
    exact unread read

theorem held?_dropped {name later raw held : String} {after : List String} (whole : '=' ∉ name.toList)
    (again : later ++ "=" ++ held ∈ after) (laterWhole : '=' ∉ later.toList)
    (same : trim later = trim name) (before : List String) :
    held? key (before ++ (name ++ "=" ++ raw) :: after) = held? key (before ++ after) := by
  refine held?_remove again ?_ before
  rw [valueFor?_read read whole, valueFor?_read read laterWhole, same]
  by_cases own : trim name = key <;> simp [own]

theorem valueFor?_quoted {name v mark a b c d : String} (whole : '=' ∉ name.toList) (bare : Bare v)
    (marks : mark = "\"" ∨ mark = "'") (blank : ∀ s ∈ [a, b, c, d], ∀ x ∈ s.toList, isBlank x = true) :
    valueFor? key ((a ++ name ++ b) ++ "=" ++ (c ++ (mark ++ v ++ mark) ++ d)) =
      valueFor? key (name ++ "=" ++ v) := by
  simp only [List.forall_mem_cons] at blank
  obtain ⟨atA, atB, atC, atD, _⟩ := blank
  have apart {s : String} (blank : ∀ x ∈ s.toList, isBlank x = true) : '=' ∉ s.toList := fun place =>
    absurd (blank '=' place) (by decide)
  have padded : '=' ∉ (a ++ name ++ b).toList := by
    simp [whole, apart atA, apart atB]
  rw [valueFor?_read read padded, valueFor?_read read whole, Text.trim_between atA atB,
    value_quoted bare marks atC atD, value_of_bare bare]

theorem valueFor?_recased {name raw other : String} (whole : '=' ∉ name.toList)
    (same : other.toLower = raw.toLower) :
    (valueFor? key (name ++ "=" ++ other)).map String.toLower =
      (valueFor? key (name ++ "=" ++ raw)).map String.toLower := by
  have values : (value other).toLower = (value raw).toLower := by
    rw [← value_toLower, same, value_toLower]
  rw [valueFor?_read read whole, valueFor?_read read whole]
  by_cases own : trim name = key <;> simp [own, values]

theorem valueFor?_shortened {name front back other : String} (whole : '=' ∉ name.toList) :
    (valueFor? key (name ++ "=" ++ (front ++ "." ++ other))).map majorVersion =
      (valueFor? key (name ++ "=" ++ (front ++ "." ++ back))).map majorVersion := by
  rw [valueFor?_read read whole, valueFor?_read read whole]
  by_cases own : trim name = key <;> simp [own, majorVersion_value front other back]

theorem valueFor?_foreign {name : String} (whole : '=' ∉ name.toList) (foreign : trim name ≠ key)
    (raw other : String) : valueFor? key (name ++ "=" ++ other) = valueFor? key (name ++ "=" ++ raw) := by
  rw [valueFor?_read read whole, valueFor?_read read whole, if_neg foreign, if_neg foreign]

end Keys

section Edits

variable {lines edited : List String}

theorem feed_mem_toLower (s : String) : '\n' ∈ s.toLower.toList ↔ '\n' ∈ s.toList := by
  have feed (c : Char) : c.toLower = '\n' ↔ c = '\n' := by
    simpa using Text.apply_toLower (f := fun c => decide (c = '\n')) (by decide) c
  simp [Text.toList_toLower, feed]

theorem Single.replace {before after : List String} {line other : String}
    (single : Single (before ++ line :: after)) (whole : '\n' ∉ line.toList → '\n' ∉ other.toList) :
    Single (before ++ other :: after) := by
  simp only [Single, List.forall_mem_append, List.forall_mem_cons] at single ⊢
  exact ⟨single.1, whole single.2.1, single.2.2⟩

theorem Edit.single (edit : Edit lines edited) (single : Single lines) : Single edited := by
  cases edit with
  | insert before after idle whole =>
    simp only [Single, List.forall_mem_append, List.forall_mem_cons] at single ⊢
    exact ⟨single.1, whole, single.2⟩
  | remove before after whole again laterWhole same =>
    simp only [Single, List.forall_mem_append, List.forall_mem_cons] at single ⊢
    exact ⟨single.1, single.2.2⟩
  | quote before after whole bare marks blank =>
    refine single.replace ?_
    intro old
    have free := fun s member feed => (blank s member '\n' feed).2 rfl
    simp only [List.forall_mem_cons] at free
    obtain ⟨atA, atB, atC, atD, _⟩ := free
    rcases marks with rfl | rfl <;> simp_all
  | recase before after whole key same =>
    refine single.replace ?_
    intro old
    simp only [String.toList_append, List.mem_append, not_or] at old ⊢
    refine ⟨old.1, ?_⟩
    rw [← feed_mem_toLower, same, feed_mem_toLower]
    exact old.2
  | minor before after whole key plain major =>
    refine single.replace ?_
    intro old
    simp_all

theorem ofOsRelease_congr (single : Single lines) (singleAfter : Single edited)
    (same : ∀ key ∈ readKeys, held? key edited = held? key lines) (arch : String) :
    Platform.ofOsRelease (Text.joinLines edited) arch = Platform.ofOsRelease (Text.joinLines lines) arch := by
  simp only [readKeys, List.forall_mem_cons] at same
  rw [ofOsRelease_joinLines single, ofOsRelease_joinLines singleAfter, same.1, same.2.1, same.2.2.1]

theorem Edit.keeps (edit : Edit lines edited) (single : Single lines) (arch : String) :
    Platform.ofOsRelease (Text.joinLines edited) arch = Platform.ofOsRelease (Text.joinLines lines) arch := by
  have singleAfter := edit.single single
  cases edit with
  | insert before after idle whole =>
    refine ofOsRelease_congr single singleAfter ?_ arch
    exact fun key read => held?_insert (valueFor?_idle read idle) before after
  | remove before after whole again laterWhole same =>
    refine ofOsRelease_congr single singleAfter ?_ arch
    exact fun key read => (held?_dropped read whole again laterWhole same before).symm
  | quote before after whole bare marks blank =>
    refine ofOsRelease_congr single singleAfter ?_ arch
    intro key read
    have blanks := fun s member x place => (blank s member x place).1
    exact held?_replace (valueFor?_quoted read whole bare marks blanks) before after
  | @recase before after name raw other whole key same =>
    rw [ofOsRelease_joinLines single, ofOsRelease_joinLines singleAfter]
    -- the release stays as it is; of the names only their lower case is read
    have read : "VERSION_ID" ∈ readKeys := by decide
    have foreign : trim name ≠ "VERSION_ID" := by
      rcases key with key | key <;> rw [key] <;> decide
    rw [held?_replace (valueFor?_foreign read whole foreign _ _)]
    exact ofValues_of_toLower (map_held?_replace (valueFor?_recased (by decide) whole same) before after)
      (map_held?_replace (valueFor?_recased (by decide) whole same) before after) arch
  | minor before after whole key plain major =>
    rw [distro_joinLines single] at major
    rw [ofOsRelease_joinLines single, ofOsRelease_joinLines singleAfter]
    -- the names stay as they are; of the release only its major version is read
    have id : "ID" ∈ readKeys := by decide
    have like : "ID_LIKE" ∈ readKeys := by decide
    rw [held?_replace (valueFor?_foreign id whole (by rw [key]; decide) _ _),
      held?_replace (valueFor?_foreign like whole (by rw [key]; decide) _ _)]
    exact ofValues_of_major major (map_held?_replace (valueFor?_shortened (by decide) whole) before after) arch

theorem keeps_of_edits (single : Single lines) (edits : Relation.ReflTransGen Edit lines edited)
    (arch : String) :
    Single edited ∧
      Platform.ofOsRelease (Text.joinLines edited) arch = Platform.ofOsRelease (Text.joinLines lines) arch := by
  induction edits with
  | refl => exact ⟨single, rfl⟩
  | tail _ edit ih => exact ⟨edit.single ih.1, (edit.keeps ih.1 arch).trans ih.2⟩

/-- Of an os-release file nothing counts but the last assignments to the three keys, and of these no
quotes or blanks around a value, no case of ASCII letters in the names of distributions and, where only
the major version counts, nothing behind the first dot: however often the file is changed in these
ways, line by line, the platform stays the same. It is never of the family of macos. -/
theorem edits_keep_platform {content : String} {edited : List String}
    (edits : Relation.ReflTransGen Edit (Text.pieces content) edited) (arch : String) :
    let platform := Platform.ofOsRelease content arch
    Platform.ofOsRelease (Text.joinLines edited) arch = platform ∧
      platform.family ≠ .macos ∧ platform.os = "linux" := by
  intro platform
  have single : Single (Text.pieces content) := fun _ => Text.not_mem_of_mem_pieces
  have whole := Text.joinLines_pieces content
  have same := (keeps_of_edits single edits arch).2
  rw [whole] at same
  have family : platform.family ≠ .macos := by
    have known := family_joinLines single arch
    rwa [whole] at known
  refine ⟨same, family, ?_⟩
  rw [Platform.os]
  split
  · contradiction
  · rfl

/-- Each way once: a comment, an assignment that is made again, capitals, a later release, quotes. -/
theorem edits_keep_platform_centos :
    let content := "ID=centos\nVERSION_ID=7\nVERSION_ID=8.5"
    let edited := ["# host", "ID=CentOS", " VERSION_ID = '8.9'\r"]
    Relation.ReflTransGen Edit (Text.pieces content) edited ∧
      let platform := Platform.ofOsRelease content "x86_64"
      Platform.ofOsRelease (Text.joinLines edited) "x86_64" = platform ∧
        platform.family ≠ .macos ∧ platform.os = "linux" ∧
        platform = ⟨.redhat, "centos", "8", "x86_64"⟩ := by
  intro content edited
  have pieces : Text.pieces content = ["ID=centos", "VERSION_ID=7", "VERSION_ID=8.5"] := by decide
  have comment : Edit ["ID=centos", "VERSION_ID=7", "VERSION_ID=8.5"]
      ["# host", "ID=centos", "VERSION_ID=7", "VERSION_ID=8.5"] :=
    .insert [] _ (.comment (by decide)) (by decide)
  have again : Edit (["# host", "ID=centos"] ++ ("VERSION_ID" ++ "=" ++ "7") :: ["VERSION_ID=8.5"])
      (["# host", "ID=centos"] ++ ["VERSION_ID=8.5"]) :=
    have later : "VERSION_ID" ++ "=" ++ "8.5" ∈ ["VERSION_ID=8.5"] := by decide
    .remove _ _ (by decide) later (by decide) rfl
  have letters : "CentOS".toLower = "centos".toLower := by
    rw [← String.toList_inj, Text.toList_toLower, Text.toList_toLower]
    decide
  have capitals : Edit (["# host"] ++ ("ID" ++ "=" ++ "centos") :: ["VERSION_ID=8.5"])
      (["# host"] ++ ("ID" ++ "=" ++ "CentOS") :: ["VERSION_ID=8.5"]) :=
    .recase _ _ (by decide) (.inl (by decide)) letters
  have release : Edit (["# host", "ID=CentOS"] ++ ("VERSION_ID" ++ "=" ++ ("8" ++ "." ++ "5")) :: [])
      (["# host", "ID=CentOS"] ++ ("VERSION_ID" ++ "=" ++ ("8" ++ "." ++ "9")) :: []) :=
    .minor _ _ (by decide) (by decide) (by decide) (by decide)
  have bare : Bare "8.9" := by
    intro c ends
    have digit : c = '8' ∨ c = '9' := by simpa [eq_comm] using ends
    rcases digit with rfl | rfl <;> decide
  have quotes : Edit (["# host", "ID=CentOS"] ++ ("VERSION_ID" ++ "=" ++ "8.9") :: [])
      (["# host", "ID=CentOS"] ++
        ((" " ++ "VERSION_ID" ++ " ") ++ "=" ++ (" " ++ ("'" ++ "8.9" ++ "'") ++ "\r")) :: []) :=
    have blank : ∀ s ∈ [" ", " ", " ", "\r"], ∀ x ∈ s.toList, isBlank x = true ∧ x ≠ '\n' := by
      simp [isBlank]
    .quote _ _ (by decide) bare (.inr rfl) blank
  have edits : Relation.ReflTransGen Edit (Text.pieces content) edited := by
    simp only [List.cons_append, List.nil_append, String.reduceAppend] at again capitals release quotes
    rw [pieces]
    exact ((((Relation.ReflTransGen.single comment).tail again).tail capitals).tail release).tail quotes
  obtain ⟨same, family, os⟩ := edits_keep_platform edits "x86_64"
  exact ⟨edits, same, family, os, by decide⟩

end Edits

end OsRelease
end HostSetup
