import ConnectorConsole.Proofs.Text.Spaces
import ConnectorConsole.Terminal.Table
import Mathlib.Algebra.BigOperators.Group.List.Lemmas
import Mathlib.Algebra.Ring.Nat

/-!
# Columns of tables

A column is as wide as its longest cell, and it starts two spaces behind the one before.  Every
line of a table shows its cells there, whole and in place, so that the cells can be read off the
printed lines by position.
-/

namespace ConnectorConsole

namespace Table

/-- The cells of a column, from the top. -/
def column (table : List (List String)) (place : Nat) : List String :=
  table.filterMap (·[place]?)

/-- The number of characters in the longest cell of a column. -/
def columnWidth (table : List (List String)) (place : Nat) : Nat :=
  ((column table place).map String.length).foldr max 0

/-- The position at which a column starts: every column before it takes its width and two
spaces. -/
def columnStart (table : List (List String)) (place : Nat) : Nat :=
  ((List.range place).map fun before => columnWidth table before + 2).sum

/-- A line in which cells stand in the columns of a table.  No cell is longer than its column,
spaces fill the column behind it, two more spaces part it from the next, and nothing stands behind
the last. -/
structure Shows (table : List (List String)) (cells : List String) (line : String) : Prop where
  fits : ∀ (place : Nat) (cell : String), cells[place]? = some cell →
    cell.length ≤ columnWidth table place
  inPlace : ∀ (place : Nat) (cell : String), cells[place]? = some cell →
    Text.textAt line (columnStart table place) (columnWidth table place) =
      cell.rightpad (columnWidth table place)
  parted : ∀ place < cells.length,
    Text.textAt line (columnStart table place + columnWidth table place) 2 = "  "
  ended : line.length ≤ columnStart table cells.length

/-- The cells that a reader finds in the first columns of a line, without the spaces behind
them. -/
def readCells (table : List (List String)) (count : Nat) (line : String) : List String :=
  (List.range count).map fun place =>
    Text.trimEnd (Text.slice line (columnStart table place) (columnWidth table place))

section Widths

variable {header : List String} {rows table : List (List String)} {place : Nat}

theorem columnWidth_cons (cells : List String) :
    columnWidth (cells :: table) place =
      max ((cells[place]?.map String.length).getD 0) (columnWidth table place) := by
  rw [columnWidth, column, List.filterMap_cons]
  cases cells[place]? with
  | none => exact (Nat.zero_max _).symm
  | some cell => rfl

theorem length_le_columnWidth {cells : List String} {cell : String} (isRow : cells ∈ table)
    (isCell : cells[place]? = some cell) : cell.length ≤ columnWidth table place := by
  induction table with
  | nil => cases isRow
  | cons first table ih =>
      rw [columnWidth_cons]
      rcases List.mem_cons.mp isRow with rfl | inTable
      · rw [isCell]
        exact Nat.le_max_left _ _
      · exact (ih inTable).trans (Nat.le_max_right _ _)

/-- A row widens the columns in which it has a longer cell. -/
theorem getElem?_widen (widths : List Nat) (cells : List String) :
    (widen widths cells)[place]? =
      widths[place]?.map (max · ((cells[place]?.map String.length).getD 0)) := by
  induction widths generalizing cells place with
  | nil => cases cells <;> rfl
  | cons width widths ih =>
      cases cells with
      | nil => simp [widen]
      | cons cell cells =>
          cases place with
          | zero => rfl
          | succ place => exact ih cells

/-- Rows in turn widen each column to its longest cell. -/
theorem getElem?_foldl_widen (rows : List (List String)) (widths : List Nat) :
    (rows.foldl widen widths)[place]? = widths[place]?.map (max · (columnWidth rows place)) := by
  induction rows generalizing widths with
  | nil => simp [columnWidth, column]
  | cons cells rows ih =>
      rw [List.foldl_cons, ih, getElem?_widen, Option.map_map, columnWidth_cons]
      simp only [Function.comp_def, Nat.max_assoc]

theorem widths_eq :
    widths header rows = (List.range header.length).map (columnWidth (header :: rows)) := by
  apply List.ext_getElem?
  intro place
  rw [widths, getElem?_foldl_widen, List.getElem?_map, List.getElem?_map, Option.map_map]
  by_cases inHeader : place < header.length
  · rw [List.getElem?_range inHeader, List.getElem?_eq_getElem inHeader, Option.map_some,
      Option.map_some, columnWidth_cons, List.getElem?_eq_getElem inHeader]
    rfl
  · rw [List.getElem?_eq_none (by omega), List.getElem?_eq_none (by rw [List.length_range]; omega)]
    rfl

end Widths

section Blocks

/-- The cells of a row, each filled up with spaces to the start of the next column. -/
def blocks (table : List (List String)) (cells : List String) : List String :=
  cells.mapIdx fun place cell => cell.rightpad (columnWidth table place + 2)

variable {table : List (List String)} {cells : List String} {place : Nat} {cell : String}

theorem columnStart_succ :
    columnStart table (place + 1) = columnStart table place + (columnWidth table place + 2) := by
  rw [columnStart, List.range_succ, List.map_append, List.sum_append]
  rfl

theorem take_lengths_blocks (isRow : cells ∈ table) (inRow : place ≤ cells.length) :
    ((blocks table cells).map String.length).take place =
      (List.range place).map fun before => columnWidth table before + 2 := by
  apply List.ext_getElem
  · simp [blocks, inRow]
  · intro before inTaken inRange
    have inCells : before < cells.length := by
      rw [List.length_map, List.length_range] at inRange
      omega
    have fits := length_le_columnWidth isRow (List.getElem?_eq_getElem inCells)
    simp only [blocks, List.getElem_take, List.getElem_map, List.getElem_mapIdx,
      List.getElem_range, Text.length_rightpad]
    omega

theorem toList_join_blocks :
    (String.join (blocks table cells)).toList = ((blocks table cells).map String.toList).flatten := by
  rw [String.toList_join, List.flatMap_def]

theorem length_join_blocks (isRow : cells ∈ table) :
    (String.join (blocks table cells)).length = columnStart table cells.length := by
  have lengths := take_lengths_blocks isRow le_rfl
  rw [List.take_of_length_le (by simp [blocks])] at lengths
  rw [columnStart, ← lengths, ← String.length_toList, String.toList_join, List.length_flatMap]
  simp only [String.length_toList]

/-- Each block stands between the starts of two columns. -/
theorem textAt_join_blocks (isRow : cells ∈ table) (isCell : cells[place]? = some cell) :
    Text.textAt (String.join (blocks table cells)) (columnStart table place)
        (columnWidth table place + 2) =
      cell.rightpad (columnWidth table place + 2) := by
  obtain ⟨inRow, rfl⟩ := List.getElem?_eq_some_iff.mp isCell
  have block := List.drop_take_succ_flatten_eq_getElem ((blocks table cells).map String.toList)
    place (by simpa [blocks] using inRow)
  have lengths : ((blocks table cells).map String.toList).map List.length =
      (blocks table cells).map String.length := by
    simp only [List.map_map, Function.comp_def, String.length_toList]
  rw [lengths, take_lengths_blocks isRow inRow.le, take_lengths_blocks isRow inRow,
    ← columnStart, ← columnStart, columnStart_succ, ← toList_join_blocks, List.drop_take,
    Nat.add_sub_cancel_left] at block
  -- the slice is the block already, so that no spaces are missing
  rw [Text.textAt_eq_rightpad, Text.slice, block]
  simp only [blocks, List.getElem_map, List.getElem_mapIdx, String.ofList_toList]
  exact Text.rightpad_of_length_le (by rw [Text.length_rightpad]; omega)

theorem plain_join_blocks (plain : ∀ cell ∈ cells, Text.Plain cell) :
    Text.Plain (String.join (blocks table cells)) := by
  intro c member isBlank
  rw [String.toList_join, List.mem_flatMap] at member
  obtain ⟨block, isBlock, inBlock⟩ := member
  obtain ⟨place, inRow, rfl⟩ := List.mem_mapIdx.mp isBlock
  rw [Text.toList_rightpad, List.mem_append] at inBlock
  rcases inBlock with inCell | isSpace
  · exact plain _ (List.getElem_mem inRow) c inCell isBlank
  · exact List.eq_of_mem_replicate isSpace

end Blocks

section Lines

/-- A line of a table, without its end. -/
def printed (table : List (List String)) (cells : List String) : String :=
  Text.trimEnd (String.join (blocks table cells))

variable {header : List String} {rows table : List (List String)} {cells : List String}

theorem pad_append_spaces {width : Nat} {cell : String} (fits : cell.length ≤ width) :
    pad width cell ++ "  " = cell.rightpad (width + 2) := by
  have together : width - cell.length + 2 = width + 2 - cell.length := by omega
  rw [← String.toList_inj, String.toList_append, pad, String.toList_ofList, Text.toList_rightpad,
    ← together, ← List.replicate_append_replicate, ← List.append_assoc]
  rfl

theorem line_eq (isRow : cells ∈ header :: rows) (alike : cells.length = header.length) :
    line (widths header rows) cells = printed (header :: rows) cells ++ "\n" := by
  have padded : (List.zipWith pad (widths header rows) cells).map (· ++ "  ") =
      blocks (header :: rows) cells := by
    apply List.ext_getElem
    · simp [widths_eq, blocks, alike]
    · intro place inPadded inBlocks
      have inRow : place < cells.length := by simpa [blocks] using inBlocks
      have fits := length_le_columnWidth isRow (List.getElem?_eq_getElem inRow)
      simp only [widths_eq, blocks, List.getElem_map, List.getElem_zipWith, List.getElem_range,
        List.getElem_mapIdx, pad_append_spaces fits]
  -- two spaces behind the last cell make it a block like the others, and are dropped again
  rw [line, Text.trimEnd_join_spaces, padded, printed]

/-- Around the place of a cell a line holds the cell among spaces. -/
theorem textAt_printed {place inner count : Nat} {cell : String} (isRow : cells ∈ table)
    (plain : ∀ cell ∈ cells, Text.Plain cell) (isCell : cells[place]? = some cell)
    (inside : inner + count ≤ columnWidth table place + 2) :
    Text.textAt (printed table cells) (columnStart table place + inner) count =
      Text.textAt cell inner count := by
  rw [printed, Text.textAt_trimEnd (plain_join_blocks plain), ← Text.textAt_textAt inside,
    textAt_join_blocks isRow isCell, Text.textAt_rightpad]

/-- Cells without blanks other than spaces are whole and in place on their line. -/
theorem shows_printed (isRow : cells ∈ table) (plain : ∀ cell ∈ cells, Text.Plain cell) :
    Shows table cells (printed table cells) where
  fits _ _ isCell := length_le_columnWidth isRow isCell
  inPlace place cell isCell := by
    have atStart : 0 + columnWidth table place ≤ columnWidth table place + 2 := by omega
    rw [← Text.textAt_zero (length_le_columnWidth isRow isCell),
      ← textAt_printed isRow plain isCell atStart, Nat.add_zero]
  parted place inRow := by
    have isCell := List.getElem?_eq_getElem inRow
    rw [textAt_printed isRow plain isCell le_rfl,
      Text.textAt_of_length_le (length_le_columnWidth isRow isCell)]
    rfl
  ended := by
    rw [← length_join_blocks isRow]
    exact Text.length_trimEnd_le _

/-- Cells come back from every line that shows them, up to the blanks at their ends.  A line may
end before its last columns do, and what is missing there are spaces. -/
theorem Shows.readCells_eq {line : String} (shown : Shows table cells line) :
    readCells table cells.length line = cells.map Text.trimEnd := by
  apply List.ext_getElem
  · simp [Table.readCells]
  · intro place inRead inCells
    rw [List.length_map] at inCells
    have inPlace := shown.inPlace place _ (List.getElem?_eq_getElem inCells)
    have trimmed := congrArg Text.trimEnd inPlace
    rw [Text.textAt_eq_rightpad, Text.trimEnd_rightpad, Text.trimEnd_rightpad] at trimmed
    simp only [Table.readCells, List.getElem_map, List.getElem_range, trimmed]

/-- A printed line is a single one, and no blank ends it. -/
theorem printed_isLine (plain : ∀ cell ∈ cells, Text.Plain cell) :
    '\n' ∉ (printed table cells).toList ∧
      ∀ c ∈ (printed table cells).toList.getLast?, Text.isBlank c = false := by
  constructor
  · intro feed
    have plainLine : Text.Plain (printed table cells) := (plain_join_blocks plain).trimEnd
    exact absurd (plainLine _ feed rfl) (by decide)
  · rw [printed, Text.trimEnd, String.toList_ofList]
    exact Text.last_trimRight _

/-- The lines of a table: one for the header and one for each row, or one that says that there
are no rows. -/
def printedLines (header : List String) (rows : List (List String)) : List String :=
  (header :: rows).map (printed (header :: rows)) ++ if rows = [] then ["(none)"] else []

theorem render_eq (alike : ∀ row ∈ rows, row.length = header.length) :
    render header rows = String.join ((printedLines header rows).map (· ++ "\n")) := by
  have headerLine : line (widths header rows) header = printed (header :: rows) header ++ "\n" :=
    line_eq List.mem_cons_self rfl
  cases rows with
  | nil =>
      have noted : printedLines header [] = [printed [header] header, "(none)"] := rfl
      rw [noted, List.map_cons, List.map_cons, String.join_cons, String.join_cons, List.map_nil,
        String.join_nil, String.append_empty, ← headerLine]
      rfl
  | cons first rest =>
      have rowLines : (first :: rest).map (line (widths header (first :: rest))) =
          ((first :: rest).map (printed (header :: first :: rest))).map (· ++ "\n") := by
        rw [List.map_map]
        exact List.map_congr_left fun row isRow =>
          line_eq (List.mem_cons_of_mem header isRow) (alike row isRow)
      have noNote : printedLines header (first :: rest) =
          (header :: first :: rest).map (printed (header :: first :: rest)) := by
        rw [printedLines, if_neg (List.cons_ne_nil first rest), List.append_nil]
      rw [noNote, List.map_cons, List.map_cons, String.join_cons, ← rowLines, ← headerLine]
      rfl

theorem length_printedLines :
    (printedLines header rows).length = 1 + max 1 rows.length := by
  rw [printedLines, List.length_append, List.length_map, List.length_cons]
  cases rows with
  | nil => rfl
  | cons first rest =>
      rw [if_neg (List.cons_ne_nil first rest), List.length_cons, List.length_nil]
      omega

theorem getElem?_printedLines {row : Nat} (isRow : (header :: rows)[row]? = some cells) :
    (printedLines header rows)[row]? = some (printed (header :: rows) cells) := by
  have inTable : row < (header :: rows).length := (List.getElem?_eq_some_iff.mp isRow).1
  rw [printedLines, List.getElem?_append_left (by rwa [List.length_map]), List.getElem?_map, isRow]
  rfl

theorem isLine_of_mem_printedLines {line : String}
    (plain : ∀ cells ∈ header :: rows, ∀ cell ∈ cells, Text.Plain cell)
    (member : line ∈ printedLines header rows) :
    '\n' ∉ line.toList ∧ ∀ c ∈ line.toList.getLast?, Text.isBlank c = false := by
  rw [printedLines, List.mem_append, List.mem_map] at member
  rcases member with ⟨cells, isRow, rfl⟩ | isNote
  · exact printed_isLine (plain cells isRow)
  · split at isNote
    · obtain rfl := List.mem_singleton.mp isNote
      have trimmed : Text.Trimmed "(none)" := by decide
      exact ⟨by decide, trimmed.2⟩
    · cases isNote

end Lines

/-- A table is printed on one line for its header and one for each row, where a single line says
that there are no rows.  No blank ends a line.  On each line the cells are whole and in place, so
that they come back when the line is read by the positions of the columns. -/
theorem render_in_columns {header : List String} {rows : List (List String)}
    (alike : ∀ row ∈ rows, row.length = header.length)
    (plain : ∀ cells ∈ header :: rows, ∀ cell ∈ cells, Text.Plain cell) :
    ∃ lines : List String,
      render header rows = String.join (lines.map (· ++ "\n")) ∧
      lines.length = 1 + max 1 rows.length ∧
      (∀ line ∈ lines, '\n' ∉ line.toList ∧
        ∀ c ∈ line.toList.getLast?, Text.isBlank c = false) ∧
      (rows = [] → lines[1]? = some "(none)") ∧
      ∀ (row : Nat) (cells : List String), (header :: rows)[row]? = some cells →
        ∃ line, lines[row]? = some line ∧ Shows (header :: rows) cells line ∧
          readCells (header :: rows) cells.length line = cells.map Text.trimEnd := by
  refine ⟨printedLines header rows, render_eq alike, length_printedLines,
    fun line => isLine_of_mem_printedLines plain, ?_, ?_⟩
  · rintro rfl
    rfl
  · intro row cells isRow
    have isMember := List.mem_of_getElem? isRow
    have shown := shows_printed isMember (plain cells isMember)
    exact ⟨printed (header :: rows) cells, getElem?_printedLines isRow, shown, shown.readCells_eq⟩

/-- A table with an empty cell, blanks at the end of cells, letters outside ASCII and a last
column without text. -/
theorem render_in_columns_ragged :
    let header := ["RUN", "État", ""]
    let rows := [["wide value ", "", " "], ["", "日本 x", ""]]
    (∀ row ∈ rows, row.length = header.length) ∧
      (∀ cells ∈ header :: rows, ∀ cell ∈ cells, Text.Plain cell) ∧
      ∃ lines : List String,
        render header rows = String.join (lines.map (· ++ "\n")) ∧ lines.length = 3 ∧
          ∃ line, lines[2]? = some line ∧ Text.textAt line 13 4 = "日本 x" ∧
            readCells (header :: rows) 3 line = ["", "日本 x", ""] := by
  intro header rows
  have alike : ∀ row ∈ rows, row.length = header.length := by decide
  have plain : ∀ cells ∈ header :: rows, ∀ cell ∈ cells, Text.Plain cell := by decide
  obtain ⟨lines, isText, count, -, -, inLines⟩ := render_in_columns alike plain
  obtain ⟨line, isLine, shown, read⟩ := inLines 2 _ rfl
  exact ⟨alike, plain, lines, isText, count, line, isLine, shown.inPlace 1 _ rfl, read⟩

example : render ["A", "LONG HEADER"] [["wide value", "x"]] =
    "A           LONG HEADER\nwide value  x\n" := by
  decide +kernel

end Table

end ConnectorConsole
