import Mathlib.Data.List.Flatten
import Mathlib.Data.List.Forall2
import HostSetup.Proofs.Text.Lines
import HostSetup.Text.Boxed

/-!
What a table shows. Every row begins with a line of its own, on which each of its cells has its first
line, and these lines stand in the order of the rows.
-/
namespace HostSetup.Text
namespace Boxed

/-- No line of the cell is broken. -/
def Cell.IsUnbroken (cell : Cell) : Prop := ∀ line ∈ cell, '\n' ∉ line

theorem isUnbroken_ofString (s : String) : (Cell.ofString s).IsUnbroken := by
  intro line member feed
  simpa using of_mem_splitOnP member '\n' feed

theorem length_columnWidths {count : Nat} {first : List Cell} {others : List (List Cell)}
    (even : ∀ row ∈ first :: others, row.length = count) :
    (columnWidths (first :: others)).length = count := by
  have start : (((first :: others).headD []).map fun _ => 0).length = count := by
    rw [List.length_map]
    exact even first List.mem_cons_self
  unfold columnWidths
  generalize (((first :: others).headD []).map fun _ => 0) = widths at start ⊢
  generalize first :: others = rows at even ⊢
  induction rows generalizing widths with
  | nil => exact start
  | cons row rest ih =>
    refine ih _ ?_ fun row member => even row (List.mem_cons_of_mem _ member)
    simp [start, even row List.mem_cons_self]

theorem infix_pad (columns : Nat) (line : List Char) : line <:+: pad columns line :=
  ⟨[' '], List.replicate (columns - Text.width line + 1) ' ', rfl⟩

theorem infix_rowLine {widths : List Nat} {row : List Cell} (fits : row.length ≤ widths.length)
    {cell : Cell} (member : cell ∈ row) (index : Nat) :
    cell[index]?.getD [] <:+: rowLine widths row index := by
  refine List.IsInfix.trans ?_ (List.suffix_cons _ _).isInfix
  induction row generalizing widths with
  | nil => contradiction
  | cons next rest ih =>
    cases widths with
    | nil => contradiction
    | cons columns widths =>
      rw [List.zipWith_cons_cons, List.flatten_cons]
      rcases List.mem_cons.mp member with rfl | later
      · exact ((infix_pad columns _).trans (List.prefix_append _ _).isInfix).trans
          (List.prefix_append _ _).isInfix
      · exact (ih (Nat.le_of_succ_le_succ fits) later).trans (List.suffix_append _ _).isInfix

theorem le_foldl_max (sizes : List Nat) (start : Nat) :
    start ≤ sizes.foldl max start ∧ ∀ size ∈ sizes, size ≤ sizes.foldl max start := by
  induction sizes generalizing start with
  | nil => simp
  | cons size rest ih =>
    obtain ⟨above, later⟩ := ih (max start size)
    refine ⟨Nat.le_trans (Nat.le_max_left ..) above, ?_⟩
    intro other member
    rcases List.mem_cons.mp member with rfl | behind
    · exact Nat.le_trans (Nat.le_max_right ..) above
    · exact later other behind

/-- A row that has a cell has a line. -/
theorem mem_rowLines (widths : List Nat) {row : List Cell} {cell : Cell} (member : cell ∈ row)
    (given : cell ≠ []) : rowLine widths row 0 ∈ rowLines widths row := by
  refine List.mem_map_of_mem (List.mem_range.mpr ?_)
  have high := (le_foldl_max (row.map List.length) 0).2 _ (List.mem_map_of_mem member)
  exact Nat.lt_of_lt_of_le (List.length_pos_of_ne_nil given) high

theorem not_mem_rule {c left middle right : Char} (apart : c ∉ [left, middle, right, '─'])
    (widths : List Nat) : c ∉ rule left middle right widths := by
  have inside :
      c ∉ [middle].intercalate (widths.map fun columns => List.replicate (columns + 2) '─') := by
    induction widths with
    | nil => simp [List.intercalate]
    | cons columns rest ih =>
      cases rest with
      | nil => simp_all
      | cons next rest => simp_all [List.intercalate_cons_cons]
  simp_all [rule]

theorem not_mem_rowLine {c : Char} (apart : c ≠ '│' ∧ c ≠ ' ') {row : List Cell}
    (absent : ∀ cell ∈ row, ∀ line ∈ cell, c ∉ line) (widths : List Nat) (index : Nat) :
    c ∉ rowLine widths row index := by
  have inside : c ∉ (List.zipWith (fun columns cell => pad columns (cell[index]?.getD []) ++ ['│'])
      widths row).flatten := by
    induction row generalizing widths with
    | nil => simp
    | cons cell rest ih =>
      cases widths with
      | nil => simp
      | cons columns widths =>
        have line : c ∉ cell[index]?.getD [] := by
          cases at_index : cell[index]? with
          | none => simp
          | some line => exact absent cell List.mem_cons_self line (List.mem_of_getElem? at_index)
        have later := ih (fun cell member => absent cell (List.mem_cons_of_mem _ member)) widths
        simp_all [pad]
  simp_all [rowLine]

theorem isUnbroken_draw {header : List Cell} {rows : List (List Cell)}
    (unbroken : ∀ row ∈ header :: rows, ∀ cell ∈ row, cell.IsUnbroken) :
    Cell.IsUnbroken (draw header rows) := by
  have edge (left middle right : Char) (apart : '\n' ∉ [left, middle, right, '─'])
      (widths : List Nat) : '\n' ∉ rule left middle right widths := not_mem_rule apart widths
  have body (widths : List Nat) (row : List Cell) (member : row ∈ header :: rows) :
      ∀ line ∈ rowLines widths row, '\n' ∉ line := by
    intro line place
    obtain ⟨index, _, rfl⟩ := List.mem_map.mp place
    exact not_mem_rowLine (by decide) (unbroken row member) widths index
  have top := body (columnWidths (header :: rows)) header List.mem_cons_self
  intro line place
  unfold draw at place
  dsimp only at place
  split at place
  · simp only [List.mem_append, List.mem_cons, List.not_mem_nil, or_false] at place
    rcases place with (rfl | held) | rfl
    · exact edge _ _ _ (by decide) _
    · exact top line held
    · exact edge _ _ _ (by decide) _
  · simp only [List.mem_append, List.mem_cons, List.mem_flatMap, List.not_mem_nil, or_false] at place
    rcases place with (((rfl | held) | rfl) | ⟨row, member, held⟩) | rfl
    · exact edge _ _ _ (by decide) _
    · exact top line held
    · exact edge _ _ _ (by decide) _
    · exact body _ row (List.mem_cons_of_mem _ member) line held
    · exact edge _ _ _ (by decide) _

/-- The first lines of the rows stand in the table, in their order. -/
theorem firsts_sublist_draw {header : List Cell} {rows : List (List Cell)}
    (given : ∀ row ∈ rows, ∃ cell ∈ row, cell ≠ []) :
    (rows.map fun row => rowLine (columnWidths (header :: rows)) row 0).Sublist (draw header rows) := by
  unfold draw
  dsimp only
  split
  · rename_i empty
    simp [List.isEmpty_iff.mp empty]
  · refine (List.Sublist.trans ?_ (List.sublist_append_right _ _)).trans (List.sublist_append_left _ _)
    rw [List.map_eq_flatMap]
    refine List.Sublist.flatMap_right rows fun row member => ?_
    obtain ⟨cell, held, some_line⟩ := given row member
    exact List.singleton_sublist.mpr (mem_rowLines _ held some_line)

end Boxed

/-- The first lines of some texts are on this line. -/
def Shows (line : String) (texts : List String) : Prop :=
  ∀ s ∈ texts, ((pieces s).headD "").toList <:+: line.toList

theorem pieces_boxed (header : List String) (rows : List (List String)) :
    pieces (boxed header rows) =
      (Boxed.draw (header.map Boxed.Cell.ofString)
        (rows.map fun row => row.map Boxed.Cell.ofString)).map .ofList := by
  have unbroken : ∀ row ∈ header.map Boxed.Cell.ofString :: rows.map (fun row =>
      row.map Boxed.Cell.ofString), ∀ cell ∈ row, cell.IsUnbroken := by
    rw [← List.map_cons (f := fun row : List String => row.map Boxed.Cell.ofString)]
    intro row member cell held
    obtain ⟨texts, -, rfl⟩ := List.mem_map.mp member
    obtain ⟨s, -, rfl⟩ := List.mem_map.mp held
    exact Boxed.isUnbroken_ofString s
  rw [pieces, boxed, String.toList_ofList,
    List.splitOn_intercalate '\n' (Boxed.isUnbroken_draw unbroken)]
  unfold Boxed.draw
  dsimp only
  split <;> simp

theorem toList_headD_pieces (s : String) :
    ((pieces s).headD "").toList = (Boxed.Cell.ofString s)[0]?.getD [] := by
  rw [pieces, Boxed.Cell.ofString]
  cases s.toList.splitOn '\n' <;> simp

/-- Each row of a table has a line that shows its cells, in the order of the rows. -/
theorem boxed_shows {header : List String} {rows : List (List String)}
    (even : ∀ row ∈ rows, row.length = header.length) (given : header ≠ []) :
    ∃ shown, shown.Sublist (pieces (boxed header rows)) ∧
      List.Forall₂ (fun row line => Shows line row) rows shown := by
  let cells (texts : List String) : List Boxed.Cell := texts.map Boxed.Cell.ofString
  let widths := Boxed.columnWidths (cells header :: rows.map cells)
  have wide : widths.length = header.length := by
    refine Boxed.length_columnWidths fun row member => ?_
    rw [← List.map_cons (f := cells)] at member
    obtain ⟨texts, place, rfl⟩ := List.mem_map.mp member
    rw [List.length_map]
    rcases List.mem_cons.mp place with rfl | later
    · rfl
    · exact even texts later
  refine ⟨rows.map fun row => .ofList (Boxed.rowLine widths (cells row) 0), ?order, ?shows⟩
  case order =>
    have firsts : ((rows.map cells).map fun row => Boxed.rowLine widths row 0).Sublist
        (Boxed.draw (cells header) (rows.map cells)) := by
      refine Boxed.firsts_sublist_draw fun row member => ?_
      obtain ⟨texts, place, rfl⟩ := List.mem_map.mp member
      have some_text : texts ≠ [] := by
        rintro rfl
        exact given (List.length_eq_zero_iff.mp (even [] place).symm)
      obtain ⟨s, others, rfl⟩ := List.exists_cons_of_ne_nil some_text
      exact ⟨_, List.mem_cons_self, List.splitOnP_ne_nil _ _⟩
    rw [pieces_boxed]
    have texts := firsts.map String.ofList
    rw [List.map_map, List.map_map] at texts
    exact texts
  case shows =>
    rw [List.forall₂_map_right_iff, List.forall₂_same]
    intro row member s place
    rw [toList_headD_pieces, String.toList_ofList]
    refine Boxed.infix_rowLine ?_ (List.mem_map_of_mem place) 0
    rw [List.length_map, wide, even row member]

end HostSetup.Text
