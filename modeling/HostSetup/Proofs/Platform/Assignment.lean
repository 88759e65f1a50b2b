import HostSetup.Platform.OsRelease
import HostSetup.Proofs.Text.Letter
import HostSetup.Proofs.Text.Lines

/-!
What a line of an os-release file assigns, and which of many lines counts. A line `name=raw` assigns
to the trimmed name the value that trimming and unquoting leave of the rest, and the last line for a
key decides what the key holds; all the lines between matter for it only if they assign to it.
-/
namespace HostSetup
namespace OsRelease

open Text (isBlank trim unwrap stripEnds)

/-- A value without a blank or a quote at its ends. -/
def Bare (v : String) : Prop :=
  ∀ c, v.toList.head? = some c ∨ v.toList.getLast? = some c →
    isBlank c = false ∧ c ≠ '"' ∧ c ≠ '\''

theorem toList_value (s : String) :
    (value s).toList = stripEnds (· == '\'') (stripEnds (· == '"') (stripEnds isBlank s.toList)) := by
  simp only [value, unwrap, trim, String.toList_ofList]

theorem stripEnds_of_bare {v : String} (bare : Bare v) {p : Char → Bool}
    (stripped : ∀ c, p c = true → isBlank c = true ∨ c = '"' ∨ c = '\'') :
    stripEnds p v.toList = v.toList := by
  have kept (c : Char) (at_end : v.toList.head? = some c ∨ v.toList.getLast? = some c) : p c = false := by
    obtain ⟨visible, not_double, not_single⟩ := bare c at_end
    rw [Bool.eq_false_iff]
    intro taken
    rcases stripped c taken with blank | double | single
    · simp [visible] at blank
    · exact not_double double
    · exact not_single single
  exact Text.stripEnds_eq_self (fun c first => kept c (.inl first)) (fun c last => kept c (.inr last))

theorem value_of_bare {v : String} (bare : Bare v) : value v = v := by
  rw [← String.toList_inj, toList_value, stripEnds_of_bare bare (fun _ blank => .inl blank),
    stripEnds_of_bare bare (fun _ double => .inr (.inl (beq_iff_eq.mp double))),
    stripEnds_of_bare bare (fun _ single => .inr (.inr (beq_iff_eq.mp single)))]

/-- Quotes of either kind, and blanks outside of them, do not belong to the value. -/
theorem value_quoted {v mark : String} (bare : Bare v) (quote : mark = "\"" ∨ mark = "'")
    {front back : String} (before : ∀ c ∈ front.toList, isBlank c = true)
    (behind : ∀ c ∈ back.toList, isBlank c = true) :
    value (front ++ (mark ++ v ++ mark) ++ back) = v := by
  obtain ⟨m, letter, sort⟩ : ∃ m, mark.toList = [m] ∧ (m = '"' ∨ m = '\'') := by
    rcases quote with rfl | rfl
    · exact ⟨'"', rfl, .inl rfl⟩
    · exact ⟨'\'', rfl, .inr rfl⟩
  have double := stripEnds_of_bare bare (p := (· == '"')) (by simp)
  have single := stripEnds_of_bare bare (p := (· == '\'')) (by simp)
  have quoted : (front ++ (mark ++ v ++ mark) ++ back).toList =
      front.toList ++ (m :: v.toList ++ [m]) ++ back.toList := by simp [letter]
  rw [← String.toList_inj, toList_value, quoted, Text.stripEnds_append _ behind,
    Text.stripEnds_prepend before]
  rcases sort with rfl | rfl
  · rw [Text.stripEnds_between (by decide), Text.stripEnds_of_between (by decide), double, single]
  · rw [Text.stripEnds_between (by decide), Text.stripEnds_between (by decide),
      Text.stripEnds_of_between (by decide), single]

theorem value_toLower (s : String) : value s.toLower = (value s).toLower := by
  have strip {p : Char → Bool}
      (letters : ∀ n : Fin 26, p (.ofNat (97 + n)) = p (.ofNat (65 + n))) (cs : List Char) :
      stripEnds p (cs.map Char.toLower) = (stripEnds p cs).map Char.toLower :=
    Text.stripEnds_map (Text.apply_toLower letters) cs
  rw [← String.toList_inj, toList_value, Text.toList_toLower, strip (by decide), strip (by decide),
    strip (by decide), Text.toList_toLower, toList_value]

theorem takeWhile_append_cons {p : Char → Bool} {c : Char} (stops : p c = false)
    (front back : List Char) : (front ++ c :: back).takeWhile p = front.takeWhile p := by
  induction front with
  | nil => simp [stops]
  | cons head rest ih => simp only [List.cons_append, List.takeWhile_cons, ih]

/-- What stands behind a dot does not change the major version. -/
theorem majorVersion_value (front back other : String) :
    majorVersion (value (front ++ "." ++ back)) = majorVersion (value (front ++ "." ++ other)) := by
  have read (behind : String) : ∃ rest, (value (front ++ "." ++ behind)).toList =
      ((front.toList.dropWhile isBlank).dropWhile (· == '"')).dropWhile (· == '\'') ++ '.' :: rest := by
    have letters : (front ++ "." ++ behind).toList = front.toList ++ '.' :: behind.toList := by simp
    rw [toList_value, letters, Text.stripEnds_append_cons _ (by decide),
      Text.stripEnds_append_cons _ (by decide), Text.stripEnds_append_cons _ (by decide)]
    exact ⟨_, rfl⟩
  obtain ⟨rest, shown⟩ := read back
  obtain ⟨otherRest, otherShown⟩ := read other
  rw [majorVersion, shown, takeWhile_append_cons (by decide), majorVersion, otherShown,
    takeWhile_append_cons (by decide)]

section Line

theorem trim_line (name raw : String) :
    trim (name ++ "=" ++ raw) =
      .ofList (name.toList.dropWhile isBlank ++ '=' :: raw.toList.rdropWhile isBlank) := by
  have letters : (name ++ "=" ++ raw).toList = name.toList ++ '=' :: raw.toList := by simp
  rw [trim, letters, Text.stripEnds_append_cons _ (by decide)]

theorem trim_dropWhile (name : String) :
    trim (.ofList (name.toList.dropWhile isBlank)) = trim name := by
  rw [trim, String.toList_ofList, trim]
  conv_rhs => rw [← List.takeWhile_append_dropWhile (p := isBlank) (l := name.toList)]
  rw [Text.stripEnds_prepend (fun _ => List.mem_takeWhile_imp)]

theorem value_rdropWhile (raw : String) :
    value (.ofList (raw.toList.rdropWhile isBlank)) = value raw := by
  have whole := List.rdropWhile_append_rtakeWhile (p := isBlank) (l := raw.toList)
  have trimmed := Text.stripEnds_append (raw.toList.rdropWhile isBlank)
    (fun c (member : c ∈ raw.toList.rtakeWhile isBlank) => List.mem_rtakeWhile_imp member)
  rw [whole] at trimmed
  rw [value, trim, String.toList_ofList, ← trimmed, value, trim]

/-- The first equals sign ends the name; a line whose name begins with a hash is a comment. -/
theorem assignment?_line {name : String} (whole : '=' ∉ name.toList) (raw : String) :
    assignment? (name ++ "=" ++ raw) =
      if (trim name).toList.head? = some '#' then none else some (trim name, value raw) := by
  have first : '=' ∉ name.toList.dropWhile isBlank := fun member =>
    whole ((List.dropWhile_sublist isBlank).subset member)
  have head : (trim (name ++ "=" ++ raw)).toList.head? = some '#' ↔
      (trim name).toList.head? = some '#' := by
    rw [trim_line, String.toList_ofList, trim, String.toList_ofList, Text.head?_stripEnds,
      List.head?_append]
    cases (name.toList.dropWhile isBlank).head? <;> simp
  have given : (trim (name ++ "=" ++ raw)).isEmpty = false := by
    rw [trim_line]
    simp
  have cut : Text.cut? '=' (trim (name ++ "=" ++ raw)) =
      some (.ofList (name.toList.dropWhile isBlank), .ofList (raw.toList.rdropWhile isBlank)) := by
    rw [trim_line]
    exact Text.cut?_append first _
  simp only [assignment?, given, Bool.false_or, decide_eq_true_eq, head, cut, Option.map_some,
    trim_dropWhile, value_rdropWhile]

theorem assignment?_congr {line other : String} (same : trim line = trim other) :
    assignment? line = assignment? other := by
  simp only [assignment?, same]

theorem assignment?_dropReturn (line : List Char) :
    assignment? (.ofList (Text.dropReturn line)) = assignment? (.ofList line) := by
  rw [Text.dropReturn]
  split
  · rename_i last
    obtain ⟨front, rfl⟩ := List.getLast?_eq_some_iff.mp last
    refine assignment?_congr ?_
    rw [List.dropLast_concat, trim, trim, String.toList_ofList, String.toList_ofList,
      Text.stripEnds_append front (List.forall_mem_singleton.mpr rfl)]
  · rfl

/-- How its lines are broken does not matter for what a text assigns. -/
theorem assignments_eq (content : String) :
    assignments content = (Text.pieces content).filterMap assignment? := by
  have some_piece : content.toList.splitOn '\n' ≠ [] := List.splitOnP_ne_nil _ _
  obtain ⟨init, last, pieces⟩ : ∃ init last, content.toList.splitOn '\n' = init ++ [last] :=
    ⟨_, _, (List.dropLast_append_getLast some_piece).symm⟩
  have returns : (fun line => assignment? (.ofList (Text.dropReturn line))) =
      fun line => assignment? (.ofList line) := funext assignment?_dropReturn
  rw [assignments, Text.lines, Text.lineList, Text.pieces, pieces]
  simp only [List.dropLast_concat, List.getLast?_concat, Option.toList_some, List.map_append,
    List.map_map, List.filterMap_append, List.filterMap_map, Function.comp_def, returns]
  congr 1
  -- an empty piece at the end assigns nothing
  cases last with
  | nil => rfl
  | cons c rest => rfl

end Line

section Held

/-- What a line assigns to a key, if it does. -/
def valueFor? (key line : String) : Option String :=
  (assignment? line).bind fun (name, given) => if name = key then some given else none

/-- What lines leave a key with. -/
def held? (key : String) (lines : List String) : Option String := lookup? key (lines.filterMap assignment?)

variable {key : String}

theorem valueFor?_line (unmarked : key.toList.head? ≠ some '#') {name : String}
    (whole : '=' ∉ name.toList) (raw : String) :
    valueFor? key (name ++ "=" ++ raw) = if trim name = key then some (value raw) else none := by
  rw [valueFor?, assignment?_line whole]
  split
  · rename_i marked
    have other : trim name ≠ key := fun same => unmarked (same ▸ marked)
    simp [other]
  · rfl

theorem lookup?_append (before after : List (String × String)) :
    lookup? key (before ++ after) = (lookup? key after).or (lookup? key before) := by
  simp only [lookup?, List.reverse_append, List.find?_append, Option.map_or]

theorem held?_append (before after : List String) :
    held? key (before ++ after) = (held? key after).or (held? key before) := by
  rw [held?, List.filterMap_append, lookup?_append, held?, held?]

theorem held?_singleton (line : String) : held? key [line] = valueFor? key line := by
  cases assigned : assignment? line with
  | none => simp [held?, lookup?, valueFor?, assigned]
  | some entry => by_cases own : entry.1 = key <;> simp [held?, lookup?, valueFor?, assigned, own]

/-- A line counts unless a later one assigns to the same key, and hides the earlier ones. -/
theorem held?_between (before after : List String) (line : String) :
    held? key (before ++ line :: after) =
      (held? key after).or ((valueFor? key line).or (held? key before)) := by
  rw [List.append_cons, held?_append, held?_append, held?_singleton]

theorem isSome_held? {line : String} {lines : List String} (member : line ∈ lines)
    (assigns : (valueFor? key line).isSome = true) : (held? key lines).isSome = true := by
  obtain ⟨before, after, rfl⟩ := List.append_of_mem member
  rw [held?_between]
  simp [assigns]

theorem held?_insert {line : String} (silent : valueFor? key line = none) (before after : List String) :
    held? key (before ++ line :: after) = held? key (before ++ after) := by
  rw [held?_between, silent, Option.none_or, held?_append]

theorem held?_remove {line later : String} {after : List String} (again : later ∈ after)
    (same : (valueFor? key line).isSome = (valueFor? key later).isSome) (before : List String) :
    held? key (before ++ line :: after) = held? key (before ++ after) := by
  cases assigns : valueFor? key line with
  | none => exact held?_insert assigns before after
  | some given =>
    have assigned : (valueFor? key later).isSome = true := by
      rw [← same, assigns]
      rfl
    obtain ⟨value, hidden⟩ := Option.isSome_iff_exists.mp (isSome_held? again assigned)
    rw [held?_between, held?_append, hidden, Option.some_or, Option.some_or]

theorem held?_replace {line other : String} (same : valueFor? key other = valueFor? key line)
    (before after : List String) :
    held? key (before ++ other :: after) = held? key (before ++ line :: after) := by
  rw [held?_between, held?_between, same]

/-- What is read of the value a key holds follows from what is read of the value in each line. -/
theorem map_held?_replace {f : String → String} {line other : String}
    (same : (valueFor? key other).map f = (valueFor? key line).map f) (before after : List String) :
    (held? key (before ++ other :: after)).map f = (held? key (before ++ line :: after)).map f := by
  simp only [held?_between, Option.map_or, same]

theorem lookup?_joinLines {lines : List String} (whole : ∀ line ∈ lines, '\n' ∉ line.toList) :
    lookup? key (assignments (Text.joinLines lines)) = held? key lines := by
  rw [assignments_eq, Text.pieces_joinLines whole]
  split
  · rename_i none
    rw [none]
    rfl
  · rfl

end Held

end OsRelease
end HostSetup
