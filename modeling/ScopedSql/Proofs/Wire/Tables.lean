import ScopedSql.Format.Render
import ScopedSql.Wire.Server

namespace ScopedSql
namespace Wire

/-!
# Several results in one answer

The rows of all results of a batch arrive one after the other, each with its own
columns.  Where two of them differ in the names of their columns, the batch is
refused, and where only one of them has rows, it comes out as it was sent.  Rows of
results that agree in these names cannot be told apart, and nothing is claimed
about them.
-/

/-- One result of a batch: its columns, and for every row a cell in each of them. -/
structure Table where
  columns : List Column
  rows : List (List (Option (List UInt8)))
  full : forall cells, cells ∈ rows -> cells.length = columns.length

namespace Table

def names (table : Table) : List String :=
  table.columns.map Column.name

/-- The rows as they arrive. -/
def lines (table : Table) : List Line :=
  table.rows.map (fun cells => ⟨table.columns, cells⟩)

def isFilled (table : Table) : Bool :=
  !table.rows.isEmpty

/-- The result that holds the rows of a table and no others. -/
def toResultSet (parseTime : Bool) (table : Table) : ResultSet where
  columns := table.names
  index := ColumnIndex.ofColumns table.names
  rows := table.lines.map (fun line => Row.new table.names (line.values parseTime))
  affected := table.rows.length

end Table

/-- Results with rows that differ in their columns are refused, and the only result with rows is
taken over. -/
structure Judged (parseTime : Bool) (tables : List Table) (outcome : Except Error ResultSet) :
    Prop where
  mixed : forall one other, one ∈ tables -> other ∈ tables -> one.isFilled = true ->
    other.isFilled = true -> one.names ≠ other.names ->
    exists first second, first ∈ tables ∧ second ∈ tables ∧ first.names ≠ second.names ∧
      outcome = .error (.execution (.mixedResults first.names second.names))
  single : forall table, tables.filter Table.isFilled = [table] ->
    outcome = .ok (table.toResultSet parseTime)

/-! ## Adding rows -/

section Lines

variable {parseTime : Bool} {set : ResultSet} {line : Line} {lines : List Line}

/-- There is a cell in every column. -/
def Line.Full (line : Line) : Prop :=
  line.cells.length = line.columns.length

theorem Line.Full.length_values (full : line.Full) (parseTime : Bool) :
    (line.values parseTime).length = line.names.length := by
  rw [values, List.length_zipWith, full, Nat.min_self, names, List.length_map]

theorem addLine_of_same (full : line.Full) (same : line.names = set.columns) :
    addLine parseTime set line =
      .ok (set.addRow ⟨set.columns, line.values parseTime, set.index⟩) := by
  rw [addLine, if_pos same, ResultSet.addValues, if_pos]
  rw [full.length_values, same]

theorem addLines_of_same (full : forall line, line ∈ lines -> line.Full)
    (same : forall line, line ∈ lines -> line.names = set.columns) :
    lines.foldlM (addLine parseTime) set = .ok { set with
      rows := set.rows ++ lines.map (fun line => ⟨set.columns, line.values parseTime, set.index⟩)
      affected := set.affected + lines.length } := by
  induction lines generalizing set with
  | nil =>
      rw [List.map_nil, List.append_nil]
      rfl
  | cons line lines inductionHypothesis =>
      rw [List.foldlM_cons,
        addLine_of_same (full line List.mem_cons_self) (same line List.mem_cons_self)]
      apply (@inductionHypothesis (set.addRow ⟨set.columns, line.values parseTime, set.index⟩)
        (fun line member => full line (List.mem_cons_of_mem _ member))
        (fun line member => same line (List.mem_cons_of_mem _ member))).trans
      simp only [ResultSet.addRow, List.append_assoc, List.map_cons, List.length_cons,
        List.cons_append, List.nil_append, Nat.add_assoc, Nat.add_comm 1]

/-- The first row with other columns is reported. -/
theorem addLines_of_other (full : forall line, line ∈ lines -> line.Full)
    (other : exists line, line ∈ lines ∧ line.names ≠ set.columns) :
    exists line, line ∈ lines ∧ line.names ≠ set.columns ∧
      lines.foldlM (addLine parseTime) set =
        .error (.execution (.mixedResults set.columns line.names)) := by
  induction lines generalizing set with
  | nil =>
      rcases other with ⟨_, impossible, _⟩
      cases impossible
  | cons line lines inductionHypothesis =>
      by_cases same : line.names = set.columns
      · have later : exists line, line ∈ lines ∧ line.names ≠ set.columns := by
          rcases other with ⟨odd, member, differs⟩
          rcases List.mem_cons.mp member with rfl | member
          · exact absurd same differs
          · exact ⟨odd, member, differs⟩
        rcases @inductionHypothesis (set.addRow ⟨set.columns, line.values parseTime, set.index⟩)
            (fun line member => full line (List.mem_cons_of_mem _ member)) later
          with ⟨odd, member, differs, reported⟩
        refine ⟨odd, List.mem_cons_of_mem _ member, differs, ?_⟩
        rw [List.foldlM_cons, addLine_of_same (full line List.mem_cons_self) same]
        exact reported
      · refine ⟨line, List.mem_cons_self, same, ?_⟩
        rw [List.foldlM_cons, addLine, if_neg same]
        rfl

end Lines

/-! ## The rows of several results -/

section Tables

variable {parseTime : Bool} {table : Table} {tables : List Table} {line : Line}

theorem Table.full_of_mem_lines (member : line ∈ table.lines) : line.Full := by
  rcases List.mem_map.mp member with ⟨cells, inside, rfl⟩
  exact table.full cells inside

theorem Table.names_of_mem_lines (member : line ∈ table.lines) : line.names = table.names := by
  rcases List.mem_map.mp member with ⟨cells, _, rfl⟩
  rfl

theorem Table.lines_ne_nil (filled : table.isFilled = true) : table.lines ≠ [] := by
  simpa only [lines, isFilled, ne_eq, List.map_eq_nil_iff, Bool.not_eq_true',
    List.isEmpty_eq_false_iff] using filled

/-- Results without rows leave no trace among the rows. -/
theorem lines_filter_isFilled (tables : List Table) :
    (tables.filter Table.isFilled).flatMap Table.lines = tables.flatMap Table.lines := by
  induction tables with
  | nil => rfl
  | cons table tables inductionHypothesis =>
      rw [List.flatMap_cons, ← inductionHypothesis]
      cases filled : table.isFilled with
      | true => rw [List.filter_cons_of_pos filled, List.flatMap_cons]
      | false =>
          have rows : table.rows = [] := by
            simpa only [Table.isFilled, Bool.not_eq_false', List.isEmpty_iff] using filled
          rw [List.filter_cons_of_neg (by rw [filled]; exact Bool.false_ne_true), Table.lines, rows,
            List.map_nil, List.nil_append]

/-- The header is that of some result with rows, if there are rows. -/
theorem exists_header (listed : line ∈ tables.flatMap Table.lines) (fallback : List String) :
    exists table, table ∈ tables ∧
      header fallback (tables.flatMap Table.lines) = table.names := by
  rcases List.exists_cons_of_ne_nil (List.ne_nil_of_mem listed) with ⟨first, rest, lines⟩
  have firstListed : first ∈ tables.flatMap Table.lines := lines ▸ List.mem_cons_self
  rcases List.mem_flatMap.mp firstListed with ⟨table, member, inside⟩
  refine ⟨table, member, ?_⟩
  rw [lines]
  exact Table.names_of_mem_lines inside

theorem full_of_mem_flatMap (listed : line ∈ tables.flatMap Table.lines) : line.Full := by
  rcases List.mem_flatMap.mp listed with ⟨table, _, member⟩
  exact Table.full_of_mem_lines member

theorem collect_lines (filled : table.isFilled = true) (fallback : List String) :
    collect parseTime fallback table.lines = .ok (table.toResultSet parseTime) := by
  have head : header fallback table.lines = table.names := by
    rcases List.exists_cons_of_ne_nil (Table.lines_ne_nil filled) with ⟨first, rest, lines⟩
    rw [lines]
    exact Table.names_of_mem_lines (lines ▸ List.mem_cons_self)
  rw [collect, head, addLines_of_same (fun line => Table.full_of_mem_lines)
    (fun line => Table.names_of_mem_lines)]
  simp only [ResultSet.new, List.nil_append, Nat.zero_add, Table.toResultSet, Row.new,
    Table.lines, List.length_map]

/-- A row with other columns than the header is found, and the names of its columns are those of
some result. -/
theorem collect_of_other {fallback : List String} {names : List String}
    (head : header fallback (tables.flatMap Table.lines) = names)
    (other : exists line, line ∈ tables.flatMap Table.lines ∧ line.names ≠ names) :
    exists table, table ∈ tables ∧ table.names ≠ names ∧
      collect parseTime fallback (tables.flatMap Table.lines) =
        .error (.execution (.mixedResults names table.names)) := by
  rcases @addLines_of_other parseTime (ResultSet.new names) _
      (fun line => full_of_mem_flatMap) other
    with ⟨line, listed, differs, reported⟩
  rcases List.mem_flatMap.mp listed with ⟨table, member, inside⟩
  have named := Table.names_of_mem_lines inside
  refine ⟨table, member, named ▸ differs, ?_⟩
  rw [collect, head, reported, named]
  rfl

theorem collect_judged (parseTime : Bool) (fallback : List String) (tables : List Table) :
    Judged parseTime tables (collect parseTime fallback (tables.flatMap Table.lines)) where
  mixed := by
    intro one other oneIn otherIn oneFilled otherFilled differ
    rcases List.exists_mem_of_ne_nil _ (Table.lines_ne_nil oneFilled) with ⟨oneLine, oneMember⟩
    rcases List.exists_mem_of_ne_nil _ (Table.lines_ne_nil otherFilled)
      with ⟨otherLine, otherMember⟩
    have oneListed : oneLine ∈ tables.flatMap Table.lines :=
      List.mem_flatMap.mpr ⟨one, oneIn, oneMember⟩
    have otherListed : otherLine ∈ tables.flatMap Table.lines :=
      List.mem_flatMap.mpr ⟨other, otherIn, otherMember⟩
    rcases exists_header oneListed fallback with ⟨first, firstIn, head⟩
    -- the header cannot be that of both
    have odd : exists line, line ∈ tables.flatMap Table.lines ∧ line.names ≠ first.names := by
      by_cases same : one.names = first.names
      · refine ⟨otherLine, otherListed, ?_⟩
        rw [Table.names_of_mem_lines otherMember, ← same]
        exact differ.symm
      · refine ⟨oneLine, oneListed, ?_⟩
        rw [Table.names_of_mem_lines oneMember]
        exact same
    rcases collect_of_other head odd with ⟨second, secondIn, differs, reported⟩
    exact ⟨first, second, firstIn, secondIn, differs.symm, reported⟩
  single := by
    intro table only
    rw [← lines_filter_isFilled, only, List.flatMap_cons, List.flatMap_nil, List.append_nil]
    apply collect_lines
    exact (List.mem_filter.mp (only ▸ List.mem_cons_self : table ∈ tables.filter Table.isFilled)).2

end Tables

/-! ## The answer of a server -/

/-- What a server answers to one statement of a batch. -/
inductive Answer
  | affected (n : Nat)
  | table (table : Table)

namespace Answer

def reply : Answer -> Reply
  | .affected n => Reply.affected n
  | .table result => .rows result.lines

def table? : Answer -> Option Table
  | .affected _ => none
  | .table result => some result

end Answer

theorem gather_answers (sofar : Outcome) (answers : List Answer) :
    exists affected, gather sofar (answers.map Answer.reply) =
      (Except.ok ⟨affected, sofar.lines ++ (answers.filterMap Answer.table?).flatMap Table.lines⟩,
        false) := by
  induction answers generalizing sofar with
  | nil =>
      refine ⟨sofar.affected, ?_⟩
      rw [List.filterMap_nil, List.flatMap_nil, List.append_nil]
      rfl
  | cons answer answers inductionHypothesis =>
      cases answer with
      | affected n => exact inductionHypothesis { sofar with affected := sofar.affected + n }
      | table table =>
          rcases inductionHypothesis { sofar with lines := sofar.lines ++ table.lines }
            with ⟨affected, gathered⟩
          rw [List.append_assoc] at gathered
          exact ⟨affected, gathered⟩

/-- The rows of a batch make one result with some fallback for its columns. -/
theorem Server.exists_query_eq {server : Server} {session : Session} {sql : String} {rules : Rules}
    {answers : List Answer} (reached : server.reached session = some rules)
    (replies : Server.repliesTo rules sql = answers.map Answer.reply) :
    exists fallback, (server.query sql session).1 = collect session.parseTime fallback
      ((answers.filterMap Answer.table?).flatMap Table.lines) := by
  rcases gather_answers ⟨0, []⟩ answers with ⟨affected, gathered⟩
  rw [List.nil_append] at gathered
  rw [Server.query, Server.send, reached]
  simp only [replies, gathered]
  split
  · rename_i bare
    rw [List.isEmpty_iff.mp bare]
    exact ⟨_, rfl⟩
  · exact ⟨[], rfl⟩

/-- The results of a batch are judged by their columns, on their own and as they stand in the answer
of a server. -/
theorem batch_judged (tables : List Table) :
    (forall parseTime fallback,
      Judged parseTime tables (collect parseTime fallback (tables.flatMap Table.lines))) ∧
    (forall (server : Server) (session : Session) (sql : String) (rules : Rules)
      (answers : List Answer), server.reached session = some rules ->
        Server.repliesTo rules sql = answers.map Answer.reply ->
        answers.filterMap Answer.table? = tables ->
        Judged session.parseTime tables (server.query sql session).1) := by
  constructor
  · intro parseTime fallback
    exact collect_judged parseTime fallback tables
  · intro server session sql rules answers reached replies held
    rcases Server.exists_query_eq reached replies with ⟨fallback, queried⟩
    rw [queried, held]
    exact collect_judged session.parseTime fallback tables

/-- Two results with other columns and a change between them, and a single result after one without
rows. -/
theorem batch_judged_of_headers :
    let pair : Table := ⟨[⟨"a", "BIGINT"⟩, ⟨"b", "BIGINT"⟩], [[some [49], some [50]]], by decide⟩
    let empty : Table := ⟨[⟨"b", "BIGINT"⟩], [], by decide⟩
    let lone : Table := ⟨[⟨"c", "BIGINT"⟩], [[some [51]], [some [52]]], by decide⟩
    let mixed : List Answer := [.table pair, .affected 1, .table lone]
    let single : List Answer := [.table empty, .table lone]
    let rules : Rules := ⟨[⟨"AS a", mixed.map Answer.reply, none⟩,
      ⟨"AS c", single.map Answer.reply, none⟩], none, none⟩
    let server : Server := Server.withRules rules
    let session : Session := ⟨1, false, false⟩
    server.reached session = some rules ∧
      Server.repliesTo rules "SELECT 1 AS a, 2 AS b; DELETE FROM t; SELECT 3 AS c" =
        mixed.map Answer.reply ∧
      (exists first second : Table,
        (server.query "SELECT 1 AS a, 2 AS b; DELETE FROM t; SELECT 3 AS c" session).1 =
          .error (.execution (.mixedResults first.names second.names))) ∧
      Server.repliesTo rules "SELECT b FROM t; SELECT 3 AS c" = single.map Answer.reply ∧
      (server.query "SELECT b FROM t; SELECT 3 AS c" session).1 =
        .ok (lone.toResultSet false) := by
  intro pair empty lone mixed single rules server session
  have mixedReplies : Server.repliesTo rules
      "SELECT 1 AS a, 2 AS b; DELETE FROM t; SELECT 3 AS c" = mixed.map Answer.reply := by
    decide +kernel
  have singleReplies : Server.repliesTo rules "SELECT b FROM t; SELECT 3 AS c" =
      single.map Answer.reply := by
    decide +kernel
  refine ⟨rfl, mixedReplies, ?_, singleReplies, ?_⟩
  · rcases ((batch_judged [pair, lone]).2 server session _ rules mixed rfl mixedReplies rfl).mixed
      pair lone (by simp) (by simp) rfl rfl (by decide)
      with ⟨first, second, _, _, _, reported⟩
    exact ⟨first, second, reported⟩
  · exact ((batch_judged [empty, lone]).2 server session _ rules single rfl singleReplies rfl).single
      lone rfl

/-- The rows of two results that agree in the names of their columns come out under one header. -/
theorem query_of_agreeing_headers :
    let first : Table := ⟨[⟨"a", "BIGINT"⟩], [[some [49]]], by decide⟩
    let second : Table := ⟨[⟨"a", "BIGINT"⟩], [[some [50]]], by decide⟩
    let answers : List Answer := [.table first, .table second]
    let rules : Rules := ⟨[⟨"SELECT", answers.map Answer.reply, none⟩], none, none⟩
    let server : Server := Server.withRules rules
    let session : Session := ⟨1, false, false⟩
    server.reached session = some rules ∧
      Server.repliesTo rules "SELECT 1 AS a; SELECT 2 AS a" = answers.map Answer.reply ∧
      first.isFilled = true ∧ second.isFilled = true ∧
      ((server.query "SELECT 1 AS a; SELECT 2 AS a" session).1.bind
        (fun set => set.render .csv)).toOption = some "a\n1\n2\n" := by
  refine ⟨rfl, ?_, rfl, rfl, ?_⟩
  · decide +kernel
  · decide +kernel

end Wire
end ScopedSql
