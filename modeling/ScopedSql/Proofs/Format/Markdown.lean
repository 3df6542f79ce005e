import Mathlib.Data.List.Forall2
import ScopedSql.Format.Markdown
import ScopedSql.Proofs.Format.Fields
import ScopedSql.Text.Blank

namespace ScopedSql
namespace Markdown

/-!
# Tables keep their shape

A pipe is bare if no backslash stands right before it.  Only the pipes around
the cells of a line are bare, whatever the cells hold, so that a line can be
taken apart at its bare pipes.  In each part the cell stands between two spaces,
and without the backslashes before its pipes it is the field with a mark for
every line break.  No cell breaks its line.
-/

variable {previous : Char} {cell field rest : List Char} {cells : List (List Char)}

/-! ## Taking a line apart -/

/-- Is the character a pipe without a backslash right before it? -/
def isBare (previous c : Char) : Bool :=
  c = '|' && previous ≠ '\\'

/-- How many pipes are bare, given the character before the first. -/
def barePipes (previous : Char) : List Char -> Nat
  | [] => 0
  | c :: rest => (if isBare previous c then 1 else 0) + barePipes c rest

/-- The parts between the bare pipes, given the character before the first. -/
def parts (previous : Char) : List Char -> List (List Char)
  | [] => [[]]
  | c :: rest =>
    if isBare previous c then [] :: parts c rest
    else
      match parts c rest with
      | [] => [[c]]
      | part :: others => (c :: part) :: others

/-- The parts of a whole line: no backslash stands before its first character. -/
def lineParts (line : List Char) : List (List Char) :=
  parts '\n' line

/-- A cell without the backslashes that stand right before its pipes. -/
def unescape : List Char -> List Char
  | [] => []
  | '\\' :: '|' :: rest => '|' :: unescape rest
  | c :: rest => c :: unescape rest

/-- A field with a mark for every line break: a carriage return with a line feed, or either of
them alone. -/
def markBreaks : List Char -> List Char
  | [] => []
  | '\r' :: '\n' :: rest => breakMark ++ markBreaks rest
  | c :: rest => if c = '\n' ∨ c = '\r' then breakMark ++ markBreaks rest else c :: markBreaks rest

theorem parts_ne_nil (previous : Char) (cs : List Char) : parts previous cs ≠ [] := by
  cases cs with
  | nil => exact List.cons_ne_nil _ _
  | cons c rest =>
      rw [parts]
      split
      · exact List.cons_ne_nil _ _
      · split <;> exact List.cons_ne_nil _ _

/-- There is one part more than there are bare pipes. -/
theorem length_parts (previous : Char) (cs : List Char) :
    (parts previous cs).length = barePipes previous cs + 1 := by
  induction cs generalizing previous with
  | nil => rfl
  | cons c rest inductionHypothesis =>
      rw [parts, barePipes]
      split
      · rw [List.length_cons, inductionHypothesis, Nat.add_comm 1]
      · rw [Nat.zero_add, ← inductionHypothesis c]
        cases made : parts c rest with
        | nil => exact absurd made (parts_ne_nil c rest)
        | cons part others => rfl

/-- Characters without bare pipes come to stand in the first part. -/
theorem parts_of_none_bare (none : barePipes previous cell = 0) :
    parts previous (cell ++ ' ' :: '|' :: rest) = (cell ++ [' ']) :: parts '|' rest := by
  induction cell generalizing previous with
  | nil =>
      have space : isBare previous ' ' = false := rfl
      have pipe : isBare ' ' '|' = true := rfl
      rw [List.nil_append, parts, space, parts, pipe]
      rfl
  | cons c cell inductionHypothesis =>
      rw [barePipes, Nat.add_eq_zero_iff] at none
      have escaped : isBare previous c = false := by
        cases bare : isBare previous c with
        | false => rfl
        | true => simp [bare] at none
      rw [List.cons_append, parts, escaped, inductionHypothesis none.2]
      rfl

/-! ## Cells -/

/-- No pipe of an escaped text is bare, whatever stands before it. -/
theorem barePipes_escape (previous : Char) (field : List Char) :
    barePipes previous (escape field) = 0 := by
  fun_induction escape field generalizing previous with
  | case1 => rfl
  | case2 rest inductionHypothesis =>
      simp [breakMark, barePipes, isBare, inductionHypothesis]
  | case3 rest single inductionHypothesis =>
      simp [barePipes, isBare, inductionHypothesis]
  | case4 c rest single noPipe breaks inductionHypothesis =>
      simp [breakMark, barePipes, isBare, inductionHypothesis]
  | case5 c rest single noPipe noBreak inductionHypothesis =>
      simp [barePipes, isBare, noPipe, inductionHypothesis]

/-- An escaped text holds no line break. -/
theorem no_break_in_escape (field : List Char) :
    forall c, c ∈ escape field -> c ≠ '\n' ∧ c ≠ '\r' := by
  have mark : forall c, c ∈ breakMark -> c ≠ '\n' ∧ c ≠ '\r' := by simp [breakMark]
  fun_induction escape field with
  | case1 => exact fun _ member => nomatch member
  | case2 rest inductionHypothesis =>
      intro c member
      exact (List.mem_append.mp member).elim (mark c) (inductionHypothesis c)
  | case3 rest single inductionHypothesis =>
      intro c member
      rcases List.mem_cons.mp member with rfl | member
      · decide
      · rcases List.mem_cons.mp member with rfl | member
        · decide
        · exact inductionHypothesis c member
  | case4 c rest single noPipe breaks inductionHypothesis =>
      intro c member
      exact (List.mem_append.mp member).elim (mark c) (inductionHypothesis c)
  | case5 c rest single noPipe noBreak inductionHypothesis =>
      intro other member
      rcases List.mem_cons.mp member with rfl | member
      · exact not_or.mp noBreak
      · exact inductionHypothesis other member

/-- An escaped text does not begin with a pipe, so that a backslash before it keeps its meaning. -/
theorem head?_escape (field : List Char) : (escape field).head? ≠ some '|' := by
  fun_cases escape field with
  | case1 => exact fun impossible => nomatch impossible
  | case2 rest => simp [breakMark]
  | case3 rest single => simp
  | case4 c rest single noPipe breaks => simp [breakMark]
  | case5 c rest single noPipe noBreak => simpa using noPipe

theorem unescape_cons {c : Char} (lone : c = '\\' -> rest.head? ≠ some '|') :
    unescape (c :: rest) = c :: unescape rest := by
  rw [unescape]
  rintro more rfl rfl
  exact lone rfl rfl

theorem unescape_breakMark (rest : List Char) :
    unescape (breakMark ++ rest) = breakMark ++ unescape rest := by
  simp only [breakMark, List.cons_append, List.nil_append]
  repeat rw [unescape_cons (by simp)]

/-- Without the backslashes before its pipes, an escaped text is the text with its breaks
marked. -/
theorem unescape_escape (field : List Char) : unescape (escape field) = markBreaks field := by
  fun_induction escape field with
  | case1 => rfl
  | case2 rest inductionHypothesis =>
      rw [unescape_breakMark, inductionHypothesis, markBreaks]
  | case3 rest single inductionHypothesis =>
      rw [unescape, inductionHypothesis, markBreaks, if_neg (by decide)]
      exact single
  | case4 c rest single noPipe breaks inductionHypothesis =>
      rw [unescape_breakMark, inductionHypothesis, markBreaks, if_pos breaks]
      exact single
  | case5 c rest single noPipe noBreak inductionHypothesis =>
      rw [unescape_cons fun _ => head?_escape rest, inductionHypothesis, markBreaks,
        if_neg noBreak]
      exact single

/-! ## Lines -/

/-- A cell with the spaces around it. -/
def padded (cell : List Char) : List Char :=
  ' ' :: cell ++ [' ']

/-- The characters of a line before its line feed. -/
def lineOf (cells : List (List Char)) : List Char :=
  '|' :: cells.flatMap writeCell

/-- A line of a table: its bare pipes are one more than the cells, the first stands at its start
and the last at its end, and no carriage return is in it. -/
structure Ruled (width : Nat) (line : List Char) : Prop where
  noReturn : '\r' ∉ line
  pipes : barePipes '\n' line = width + 1
  ends : exists inner, lineParts line = [] :: inner ++ [[]]

/-- Between two bare pipes of the line stands a cell with a space on either side, and without the
backslashes before its pipes it is the field with its breaks marked. -/
def Shows (fields : List String) (line : List Char) : Prop :=
  exists cells : List (List Char), lineParts line = [] :: cells.map padded ++ [[]] ∧
    cells.map unescape = fields.map (fun field => markBreaks field.toList)

/-- Cells that hold no bare pipe and no line break. -/
def Whole (cells : List (List Char)) : Prop :=
  forall cell, cell ∈ cells -> (forall previous, barePipes previous cell = 0) ∧
    forall c, c ∈ cell -> c ≠ '\n' ∧ c ≠ '\r'

theorem parts_cells (whole : Whole cells) :
    parts '|' (cells.flatMap writeCell) = cells.map padded ++ [[]] := by
  induction cells with
  | nil => rfl
  | cons cell cells inductionHypothesis =>
      have others := inductionHypothesis fun other member =>
        whole other (List.mem_cons_of_mem _ member)
      have first := (whole cell List.mem_cons_self).1 ' '
      have spaced : barePipes '|' (' ' :: cell) = 0 := by
        rw [barePipes, first]
        rfl
      have written : writeCell cell ++ cells.flatMap writeCell =
          (' ' :: cell) ++ ' ' :: '|' :: cells.flatMap writeCell := by simp [writeCell]
      rw [List.flatMap_cons, written, parts_of_none_bare spaced, others]
      rfl

/-- A line is taken apart into its cells. -/
theorem lineParts_lineOf (whole : Whole cells) :
    lineParts (lineOf cells) = [] :: cells.map padded ++ [[]] := by
  have first : isBare '\n' '|' = true := rfl
  rw [lineParts, lineOf, parts, first, parts_cells whole]
  rfl

theorem no_break_in_lineOf (whole : Whole cells) :
    forall c, c ∈ lineOf cells -> c ≠ '\n' ∧ c ≠ '\r' := by
  intro c member
  rcases List.mem_cons.mp member with rfl | member
  · decide
  rcases List.mem_flatMap.mp member with ⟨cell, among, member⟩
  rw [writeCell, List.cons_append, List.mem_cons, List.mem_append] at member
  rcases member with rfl | member | last
  · decide
  · exact (whole cell among).2 c member
  · rcases List.mem_cons.mp last with rfl | last
    · decide
    · rw [List.mem_singleton.mp last]
      decide

theorem ruled_lineOf (whole : Whole cells) : Ruled cells.length (lineOf cells) where
  noReturn := fun member => (no_break_in_lineOf whole '\r' member).2 rfl
  pipes := by
    have count := length_parts '\n' (lineOf cells)
    rw [← lineParts, lineParts_lineOf whole] at count
    simp only [List.cons_append, List.length_cons, List.length_append, List.length_map,
      List.length_nil] at count
    omega
  ends := ⟨_, lineParts_lineOf whole⟩

/-- The cells of a row. -/
def cellsOf (fields : List String) : List (List Char) :=
  fields.map (fun field => escape field.toList)

theorem whole_cellsOf (fields : List String) : Whole (cellsOf fields) := by
  intro cell member
  rcases List.mem_map.mp member with ⟨field, _, rfl⟩
  exact ⟨fun previous => barePipes_escape previous field.toList, no_break_in_escape field.toList⟩

theorem shows_cellsOf (fields : List String) : Shows fields (lineOf (cellsOf fields)) := by
  refine ⟨cellsOf fields, lineParts_lineOf (whole_cellsOf fields), ?_⟩
  rw [cellsOf, List.map_map]
  apply List.map_congr_left
  intro field _
  exact unescape_escape field.toList

/-! ## Tables -/

/-- Characters without a line feed are the first part of what is split at the next one. -/
theorem splitOn_line {line : List Char} (unbroken : '\n' ∉ line) (rest : List Char) :
    Text.splitOn '\n' (line ++ '\n' :: rest) = line :: Text.splitOn '\n' rest := by
  induction line with
  | nil => rw [List.nil_append, Text.splitOn, if_pos rfl]
  | cons c line inductionHypothesis =>
      rw [List.mem_cons, not_or] at unbroken
      rw [List.cons_append, Text.splitOn, if_neg (Ne.symm unbroken.1),
        inductionHypothesis unbroken.2]

/-- Lines that hold no line feed are found again where each was ended by one. -/
theorem splitOn_lines {lines : List (List Char)} (unbroken : forall line, line ∈ lines ->
    '\n' ∉ line) : Text.splitOn '\n' (lines.flatMap (fun line => line ++ ['\n'])) =
      lines ++ [[]] := by
  induction lines with
  | nil => rfl
  | cons line lines inductionHypothesis =>
      rw [List.flatMap_cons, List.append_assoc, List.singleton_append,
        splitOn_line (unbroken line List.mem_cons_self),
        inductionHypothesis fun other member => unbroken other (List.mem_cons_of_mem _ member)]
      rfl

theorem getLast?_lines {lines : List (List Char)} (some : lines ≠ []) :
    (lines.flatMap (fun line => line ++ ['\n'])).getLast? = Option.some '\n' := by
  rcases List.eq_nil_or_concat lines with none | ⟨earlier, last, rfl⟩
  · exact absurd none some
  · simp

/-- The line under the header has dashes for cells. -/
def dashes (columns : List String) : List (List Char) :=
  columns.map (fun _ => ['-', '-', '-'])

theorem whole_dashes (columns : List String) : Whole (dashes columns) := by
  intro cell member
  rcases List.mem_map.mp member with ⟨column, _, rfl⟩
  exact ⟨fun previous => by simp [barePipes, isBare], by simp⟩

/-- The lines of a table without their line feeds: the header, the dashes, and the rows. -/
def linesOf (set : ResultSet) : List (List Char) :=
  lineOf (cellsOf set.columns) :: lineOf (dashes set.columns) ::
    set.rows.map (fun row => lineOf (cellsOf (row.texts set.columns.length)))

/-- Whole cells make a line that is ruled for their number and does not break. -/
theorem ruled_of_whole {width : Nat} (whole : Whole cells) (enough : cells.length = width) :
    Ruled width (lineOf cells) ∧ '\n' ∉ lineOf cells :=
  ⟨enough ▸ ruled_lineOf whole, fun member => (no_break_in_lineOf whole '\n' member).1 rfl⟩

theorem ruled_linesOf {set : ResultSet} (fit : forall row, row ∈ set.rows ->
    row.Fits set.columns) : forall line, line ∈ linesOf set ->
      Ruled set.columns.length line ∧ '\n' ∉ line := by
  intro line member
  rcases List.mem_cons.mp member with rfl | member
  · exact ruled_of_whole (whole_cellsOf _) (List.length_map _)
  rcases List.mem_cons.mp member with rfl | member
  · exact ruled_of_whole (whole_dashes _) (List.length_map _)
  · rcases List.mem_map.mp member with ⟨row, found, rfl⟩
    refine ruled_of_whole (whole_cellsOf _) ?_
    rw [cellsOf, List.length_map, (fit row found).length_texts]

/-- What is written for a result with columns are its lines, and every row fits. -/
theorem write_eq_ok {set : ResultSet} {text : String} (declared : set.columns ≠ [])
    (written : write set = .ok text) :
    (forall row, row ∈ set.rows -> row.Fits set.columns) ∧
      text.toList = (linesOf set).flatMap (fun line => line ++ ['\n']) := by
  rw [write, if_neg (by simpa using declared)] at written
  cases made : set.rows.mapM (Format.rowFields set.columns) with
  | error e =>
      rw [made] at written
      cases written
  | ok records =>
      rw [made] at written
      cases written
      rcases Format.mapM_rowFields_eq_ok made with ⟨fit, texts⟩
      refine ⟨fit, ?_⟩
      rw [String.toList_ofList, texts, linesOf, List.flatMap_cons, List.flatMap_cons,
        List.flatMap_map, List.flatMap_map, List.append_assoc]
      rfl

/-- A table ends in a line feed and has a line for the header, a line of dashes and a line for each
row.  All of them are ruled for the declared columns, the first shows the names of the columns, and
the others show the display texts of the rows, in their order. -/
theorem table_of_written {set : ResultSet} {text : String} (declared : set.columns ≠ [])
    (written : write set = .ok text) :
    text.toList.getLast? = some '\n' ∧
      exists header middle lines,
        Text.splitOn '\n' text.toList = (header :: middle :: lines) ++ [[]] ∧
        lines.length = set.rows.length ∧
        (forall line, line ∈ header :: middle :: lines -> Ruled set.columns.length line) ∧
        Shows set.columns header ∧
        List.Forall₂ (fun row line => Shows (row.texts set.columns.length) line)
          set.rows lines := by
  rcases write_eq_ok declared written with ⟨fit, characters⟩
  have ruled := ruled_linesOf fit
  refine ⟨?_, _, _, _, ?_, List.length_map _, fun line member => (ruled line member).1,
    shows_cellsOf _, ?_⟩
  · rw [characters]
    exact getLast?_lines (List.cons_ne_nil _ _)
  · rw [characters]
    exact splitOn_lines fun line member => (ruled line member).2
  · rw [List.forall₂_map_right_iff]
    exact List.forall₂_same.mpr fun row _ => shows_cellsOf _

/-- A cell that holds a pipe behind a backslash, a line break and a backslash at its end is shown
as it should be. -/
theorem table_of_awkward_cells :
    let set := (ResultSet.new ["a\\"]).addRow (.new ["a\\"] [.text "x\\|y\r\nz\\"])
    let text := "| a\\ |\n| --- |\n| x\\\\|y<br>z\\ |\n"
    write set = .ok text ∧
      exists header middle line,
        Text.splitOn '\n' text.toList = [header, middle, line] ++ [[]] ∧
        Shows ["a\\"] header ∧ Shows ["x\\|y\r\nz\\"] line := by
  intro set text
  have written : write set = .ok text := by rfl
  rcases table_of_written (List.cons_ne_nil _ _) written
    with ⟨_, header, middle, lines, split, _, _, names, shown⟩
  rcases shown with _ | ⟨first, _ | _⟩
  exact ⟨written, header, middle, _, split, names, first⟩

end Markdown
end ScopedSql
