import HostSetup.Proofs.Text.Blank
import HostSetup.Text.Lines

/-!
Texts cut at line feeds. The lines of a text that goes on behind a line feed are those in front of it
and those behind it; a text without blanks at its end has the same lines whether or not a line feed
follows. Cut at each line feed, and at nothing else, a text is put together again of its pieces.
-/
namespace HostSetup.Text

theorem splitOn_append (mark : Char) (front back : List Char) :
    (front ++ mark :: back).splitOn mark = front.splitOn mark ++ back.splitOn mark :=
  List.splitOnP_append_cons front back (beq_self_eq_true mark)

/-- The first occurrence of a character cuts a text in two. -/
theorem cut?_append {mark : Char} {front : List Char} (first : mark ∉ front) (back : List Char) :
    cut? mark (.ofList (front ++ mark :: back)) = some (.ofList front, .ofList back) := by
  obtain ⟨next, others, split⟩ := List.exists_cons_of_ne_nil (List.splitOnP_ne_nil (· == mark) back)
  have whole : [mark].intercalate (next :: others) = back := by
    rw [← split]
    exact List.intercalate_splitOn mark
  have pieces : (front ++ mark :: back).splitOn mark = front :: next :: others := by
    rw [splitOn_append, List.splitOn_eq_singleton first]
    exact congrArg (front :: ·) split
  rw [cut?, String.toList_ofList, pieces]
  simp only [whole]

theorem cut?_eq_none {mark : Char} {s : String} (absent : mark ∉ s.toList) : cut? mark s = none := by
  simp only [cut?, List.splitOn_eq_singleton absent]

section Lines

theorem lineList_append (front back : List Char) :
    lineList (front ++ '\n' :: back) = (front.splitOn '\n').map dropReturn ++ lineList back := by
  have some_piece : back.splitOn '\n' ≠ [] := List.splitOnP_ne_nil _ _
  simp only [lineList, splitOn_append, List.dropLast_append_of_ne_nil some_piece, List.map_append,
    List.getLast?_append_of_ne_nil _ some_piece, List.append_assoc]

theorem lineList_append_feed (front : List Char) :
    lineList (front ++ ['\n']) = (front.splitOn '\n').map dropReturn := by
  rw [lineList_append]
  exact List.append_nil _

theorem dropReturn_of_getLast? {line : List Char} {c : Char} (last : line.getLast? = some c)
    (not_return : c ≠ '\r') : dropReturn line = line := by
  simp [dropReturn, last, not_return]

theorem lineList_of_getLast? {cs : List Char} {c : Char} (last : cs.getLast? = some c)
    (not_feed : c ≠ '\n') (not_return : c ≠ '\r') :
    lineList cs = (cs.splitOn '\n').map dropReturn := by
  -- only the last line may lack its line feed, so what stands behind the first one decides
  by_cases feed : '\n' ∈ cs
  · obtain ⟨front, back, rfl, _⟩ := List.eq_append_cons_of_mem feed
    have later : back.getLast? = some c := by
      cases back with
      | nil => simp [Ne.symm not_feed] at last
      | cons next rest => simpa using last
    rw [lineList_append, lineList_of_getLast? later not_feed not_return, splitOn_append,
      List.map_append]
  · have given : cs ≠ [] := by
      rintro rfl
      contradiction
    rw [lineList, List.splitOn_eq_singleton feed]
    simp [dropReturn_of_getLast? last not_return, given]
termination_by cs.length

theorem lines_empty : lines "" = [] := rfl

theorem lines_append_feed (s t : String) : lines (s ++ "\n" ++ t) = lines (s ++ "\n") ++ lines t := by
  have joined : (s ++ "\n" ++ t).toList = s.toList ++ '\n' :: t.toList := by simp
  have closed : (s ++ "\n").toList = s.toList ++ ['\n'] := by simp
  rw [lines, joined, lineList_append, lines, closed, lineList_append_feed, List.map_append, lines]

theorem lines_feed {s : String} {c : Char} (last : s.toList.getLast? = some c) (not_feed : c ≠ '\n')
    (not_return : c ≠ '\r') : lines (s ++ "\n") = lines s := by
  have closed : (s ++ "\n").toList = s.toList ++ ['\n'] := by simp
  rw [lines, closed, lineList_append_feed, lines, lineList_of_getLast? last not_feed not_return]

/-- A trimmed text does not end with a part of a line break. -/
theorem lines_trim_feed {s : String} (given : trim s ≠ "") : lines (trim s ++ "\n") = lines (trim s) := by
  have some_letter : stripEnds isBlank s.toList ≠ [] := by simpa [trim] using given
  let letter := (stripEnds isBlank s.toList).getLast some_letter
  have visible : isBlank letter = false :=
    Bool.eq_false_iff.mpr (List.rdropWhile_last_not isBlank _ some_letter)
  have other (c : Char) (blank : isBlank c = true) : letter ≠ c := by
    rintro rfl
    simp [visible] at blank
  have last : (trim s).toList.getLast? = some letter := by
    rw [trim, String.toList_ofList]
    exact List.getLast?_eq_some_getLast some_letter
  exact lines_feed last (other '\n' (by decide)) (other '\r' (by decide))

theorem lines_eq_singleton {s : String} (given : s ≠ "") (no_feed : '\n' ∉ s.toList) :
    lines s = [s] := by
  simp [lines, lineList, List.splitOn_eq_singleton no_feed, given]

end Lines

section Pieces

/-- A text cut at its line feeds. What ends a line before its line feed stays with it. -/
def pieces (s : String) : List String := (s.toList.splitOn '\n').map .ofList

theorem pieces_append_feed (s t : String) : pieces (s ++ "\n" ++ t) = pieces s ++ pieces t := by
  have joined : (s ++ "\n" ++ t).toList = s.toList ++ '\n' :: t.toList := by simp
  rw [pieces, joined, splitOn_append, List.map_append, pieces, pieces]

theorem joinLines_pieces (s : String) : joinLines (pieces s) = s := by
  rw [← String.toList_inj, joinLines, pieces, String.toList_intercalate, List.map_map]
  have letters : String.toList ∘ String.ofList = id := by
    funext cs
    exact String.toList_ofList
  rw [letters, List.map_id]
  exact List.intercalate_splitOn '\n'

theorem not_mem_of_mem_pieces {s line : String} (member : line ∈ pieces s) : '\n' ∉ line.toList := by
  obtain ⟨part, place, rfl⟩ := List.mem_map.mp member
  rw [String.toList_ofList]
  intro feed
  simpa using of_mem_splitOnP place '\n' feed

/-- No lines make the empty text, which is one empty piece. -/
theorem pieces_joinLines {lines : List String} (whole : ∀ line ∈ lines, '\n' ∉ line.toList) :
    pieces (joinLines lines) = if lines = [] then [""] else lines := by
  split
  · rename_i none
    rw [none]
    rfl
  · rename_i given
    have split : ((joinLines lines).toList.splitOn '\n') = lines.map String.toList := by
      rw [joinLines, String.toList_intercalate]
      refine List.splitOn_intercalate '\n' ?_ (by simpa using given)
      simpa using whole
    rw [pieces, split, List.map_map]
    have texts : String.ofList ∘ String.toList = id := by
      funext s
      exact String.ofList_toList
    rw [texts, List.map_id]

end Pieces

end HostSetup.Text
