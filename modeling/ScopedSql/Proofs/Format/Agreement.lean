import ScopedSql.Format.Render
import ScopedSql.Proofs.Format.Fields

namespace ScopedSql

/-!
# Results that no format takes

A row that does not fit offends in one way: it has too many columns, or else it
lacks the name or the value at some declared position, the first of which is to
blame.  Both formats refuse a result for its first row that does not fit, and for
what is wrong with that row.
-/

/-! ## Rows -/

namespace Format

/-- The declared name stands at the position, and a value does. -/
def Matches (declared names : List String) (values : List Value) (position : Nat) : Prop :=
  names[position]? = declared[position]? ∧ position < values.length

/-- The column is declared at the first position whose name or value is lacking. -/
structure FirstLack (declared names : List String) (values : List Value) (position : Nat)
    (column : String) : Prop where
  there : declared[position]? = some column
  lacking : ¬ Matches declared names values position
  earlier : forall other, other < position -> Matches declared names values other

variable {declared names : List String} {values : List Value} {column name : String}
  {value : Value} {position : Nat} {e : Error}

theorem matches_cons_succ :
    Matches (column :: declared) (name :: names) (value :: values) (position + 1) ↔
      Matches declared names values position := by
  unfold Matches
  rw [List.getElem?_cons_succ, List.getElem?_cons_succ, List.length_cons, Nat.succ_lt_succ_iff]

theorem matches_cons_zero :
    Matches (column :: declared) (name :: names) (value :: values) 0 ↔ name = column := by
  unfold Matches
  constructor
  · rintro ⟨same, _⟩
    exact Option.some.inj same
  · rintro rfl
    exact ⟨rfl, Nat.zero_lt_succ _⟩

/-- What is lacking under other columns is lacking under one more column that is there. -/
theorem FirstLack.cons (lack : FirstLack declared names values position column) :
    FirstLack (name :: declared) (name :: names) (value :: values) (position + 1) column where
  there := lack.there
  lacking := fun found => lack.lacking (matches_cons_succ.mp found)
  earlier := by
    intro other before
    cases other with
    | zero => exact matches_cons_zero.mpr rfl
    | succ other => exact matches_cons_succ.mpr (lack.earlier other (Nat.lt_of_succ_lt_succ before))

/-- Nothing is lacking before the first position. -/
theorem FirstLack.head (lacking : ¬ Matches (column :: declared) names values 0) :
    FirstLack (column :: declared) names values 0 column :=
  ⟨rfl, lacking, fun _ impossible => absurd impossible (Nat.not_lt_zero _)⟩

theorem fieldsOf_of_prefix (begins : declared <+: names)
    (enough : declared.length ≤ values.length) :
    fieldsOf declared names values = .ok ((values.take declared.length).map Value.display) := by
  induction declared generalizing names values with
  | nil => rfl
  | cons column declared inductionHypothesis =>
      rcases names with _ | ⟨name, names⟩
      · exact absurd (List.prefix_nil.mp begins) (List.cons_ne_nil _ _)
      rcases List.cons_prefix_cons.mp begins with ⟨rfl, others⟩
      rcases values with _ | ⟨value, values⟩
      · exact absurd enough (Nat.not_succ_le_zero _)
      · rw [fieldsOf, if_pos rfl, inductionHypothesis others (Nat.le_of_succ_le_succ enough)]
        rfl

/-- The first column that is lacking is reported. -/
theorem fieldsOf_of_firstLack (lack : FirstLack declared names values position column) :
    fieldsOf declared names values = .error (.missingColumn column) := by
  induction declared generalizing names values position with
  | nil => cases lack.there
  | cons first declared inductionHypothesis =>
      -- At a later position the first column is there, by what is known of earlier ones.
      cases position with
      | zero =>
          cases lack.there
          rcases names with _ | ⟨name, names⟩
          · rfl
          rcases values with _ | ⟨value, values⟩
          · rfl
          rw [fieldsOf, if_neg fun same => lack.lacking (matches_cons_zero.mpr same)]
      | succ position =>
          have found := lack.earlier 0 (Nat.zero_lt_succ position)
          rcases names with _ | ⟨name, names⟩
          · cases found.1
          rcases values with _ | ⟨value, values⟩
          · exact absurd found.2 (Nat.not_lt_zero _)
          have others : FirstLack declared names values position column :=
            { there := lack.there
              lacking := fun found => lack.lacking (matches_cons_succ.mpr found)
              earlier := fun other before =>
                matches_cons_succ.mp (lack.earlier (other + 1) (Nat.succ_lt_succ before)) }
          rw [fieldsOf, if_pos (matches_cons_zero.mp found), inductionHypothesis others]
          rfl

/-- Whatever is reported, there is a first column that is lacking. -/
theorem exists_firstLack (failed : fieldsOf declared names values = .error e) :
    exists position column, FirstLack declared names values position column ∧
      e = .missingColumn column := by
  induction declared generalizing names values with
  | nil => cases failed
  | cons column declared inductionHypothesis =>
      rcases names with _ | ⟨name, names⟩
      · cases failed
        exact ⟨0, column, .head (fun found => nomatch found.1), rfl⟩
      rcases values with _ | ⟨value, values⟩
      · cases failed
        exact ⟨0, column, .head (fun found => absurd found.2 (Nat.not_lt_zero _)), rfl⟩
      rw [fieldsOf] at failed
      by_cases same : name = column
      · rw [if_pos same] at failed
        cases rest : fieldsOf declared names values with
        | ok others =>
            rw [rest] at failed
            cases failed
        | error e' =>
            rw [rest] at failed
            cases failed
            rcases inductionHypothesis rest with ⟨position, lacking, lack, reported⟩
            exact ⟨position + 1, lacking, same ▸ lack.cons, reported⟩
      · rw [if_neg same] at failed
        cases failed
        exact ⟨0, column, .head (fun found => same (matches_cons_zero.mp found)), rfl⟩

end Format

/-- What is wrong with a row that does not fit. -/
inductive Row.Offends (declared : List String) (row : Row) : Error -> Prop
  | wide (wide : declared.length < row.columns.length) :
      Row.Offends declared row (.execution (.rowColumns row.columns.length declared.length))
  | lacks {position : Nat} {column : String} (narrow : row.columns.length ≤ declared.length)
      (lack : Format.FirstLack declared row.columns row.values position column) :
      Row.Offends declared row (.missingColumn column)

namespace Format

variable {declared : List String} {row : Row} {rows : List Row} {e : Error}

theorem rowFields_of_fits (fits : row.Fits declared) :
    rowFields declared row = .ok (row.texts declared.length) := by
  rw [rowFields, if_neg (by rw [fits.names]; exact Nat.lt_irrefl _)]
  exact fieldsOf_of_prefix (fits.names ▸ List.prefix_refl _) fits.valued

theorem rowFields_ok_iff :
    (exists fields, rowFields declared row = .ok fields) ↔ row.Fits declared := by
  constructor
  · rintro ⟨fields, made⟩
    exact (rowFields_eq_ok made).1
  · intro fits
    exact ⟨_, rowFields_of_fits fits⟩

theorem rowFields_error_iff : rowFields declared row = .error e ↔ row.Offends declared e := by
  unfold rowFields
  constructor
  · intro failed
    split at failed
    · cases failed
      exact .wide ‹_›
    · rcases exists_firstLack failed with ⟨position, column, lack, rfl⟩
      exact .lacks (Nat.le_of_not_lt ‹_›) lack
  · intro offends
    cases offends with
    | wide wide => rw [if_pos wide]
    | lacks narrow lack => rw [if_neg (Nat.not_lt.mpr narrow), fieldsOf_of_firstLack lack]

end Format

/-! ## Results -/

section Calls

variable {α β : Type} {f : α -> Except Error β} {first : α} {rest values : List α} {e : Error}

theorem map_eq_error {g : α -> β} {result : Except Error α} :
    result.map g = .error e ↔ result = .error e := by
  cases result with
  | error e' =>
      constructor
      · rintro ⟨⟩
        rfl
      · rintro ⟨⟩
        rfl
  | ok value =>
      constructor
      · intro impossible
        cases impossible
      · intro impossible
        cases impossible

theorem mapM_cons_of_error {e' : Error} (failed : f first = .error e') :
    (first :: rest).mapM f = .error e' := by
  rw [List.mapM_cons, failed]
  rfl

theorem mapM_cons_of_ok {result : β} (called : f first = .ok result) :
    (first :: rest).mapM f = (rest.mapM f).map (fun results => result :: results) := by
  rw [List.mapM_cons, called]
  cases rest.mapM f <;> rfl

/-- Calls fail as the first of them that fails. -/
theorem mapM_eq_error : values.mapM f = .error e ↔ exists earlier value later,
    values = earlier ++ value :: later ∧
      (forall other, other ∈ earlier -> exists result, f other = .ok result) ∧
      f value = .error e := by
  constructor
  · intro failed
    induction values with
    | nil => cases failed
    | cons first rest inductionHypothesis =>
        cases called : f first with
        | error e' =>
            cases (mapM_cons_of_error called).symm.trans failed
            exact ⟨[], first, rest, rfl, fun _ impossible => (nomatch impossible), called⟩
        | ok result =>
            rw [mapM_cons_of_ok called, map_eq_error] at failed
            rcases inductionHypothesis failed with ⟨earlier, value, later, rfl, fine, failed⟩
            refine ⟨first :: earlier, value, later, rfl, ?_, failed⟩
            intro other member
            rcases List.mem_cons.mp member with rfl | member
            · exact ⟨result, called⟩
            · exact fine other member
  · rintro ⟨earlier, value, later, rfl, fine, failed⟩
    induction earlier with
    | nil => exact mapM_cons_of_error failed
    | cons first earlier inductionHypothesis =>
        rcases fine first List.mem_cons_self with ⟨result, called⟩
        rw [List.cons_append, mapM_cons_of_ok called, map_eq_error]
        exact inductionHypothesis fun other member => fine other (List.mem_cons_of_mem _ member)

end Calls

namespace ResultSet

/-- The first row that does not fit offends in this way. -/
def Offends (set : ResultSet) (e : Error) : Prop :=
  exists earlier row later, set.rows = earlier ++ row :: later ∧
    (forall other, other ∈ earlier -> other.Fits set.columns) ∧ row.Offends set.columns e

/-- A result that was made of values only, which were added in the declared width. -/
inductive ByValues : ResultSet -> Prop
  | new (columns : List String) : ByValues (.new columns)
  | ofRows {columns : List String} {rows : List (List Value)} {set : ResultSet}
      (made : ofRows columns rows = .ok set) : ByValues set
  | added {set wider : ResultSet} {values : List Value} (byValues : ByValues set)
      (added : set.addValues values = .ok wider) : ByValues wider

/-- All rows fit the declared columns. -/
def AllFit (set : ResultSet) : Prop :=
  forall row, row ∈ set.rows -> row.Fits set.columns

variable {set wider : ResultSet} {values : List Value}

theorem allFit_new (columns : List String) : (new columns).AllFit := by
  intro row impossible
  cases impossible

theorem AllFit.add (allFit : set.AllFit) (added : set.addValues values = .ok wider) :
    wider.AllFit := by
  rw [addValues] at added
  by_cases width : values.length = set.columns.length
  · rw [if_pos width] at added
    cases added
    intro row member
    rcases List.mem_append.mp member with member | member
    · exact allFit row member
    · cases List.mem_singleton.mp member
      exact ⟨rfl, Nat.le_of_eq width.symm⟩
  · rw [if_neg width] at added
    cases added

theorem AllFit.addAll {rows : List (List Value)} (allFit : set.AllFit)
    (added : rows.foldlM addValues set = .ok wider) : wider.AllFit := by
  induction rows generalizing set with
  | nil =>
      cases added
      exact allFit
  | cons values rows inductionHypothesis =>
      rw [List.foldlM_cons] at added
      cases first : set.addValues values with
      | error e =>
          rw [first] at added
          cases added
      | ok wider' =>
          rw [first] at added
          exact inductionHypothesis (allFit.add first) added

theorem ByValues.allFit (byValues : set.ByValues) : set.AllFit := by
  induction byValues with
  | new columns => exact allFit_new columns
  | ofRows made => exact (allFit_new _).addAll made
  | added _ added inductionHypothesis => exact inductionHypothesis.add added

/-- Every format lays out the fields of all rows. -/
theorem render_eq_map (declared : set.columns ≠ []) (format : Format) :
    exists layout : List (List String) -> String,
      set.render format = (set.rows.mapM (Format.rowFields set.columns)).map layout := by
  have some : ¬ set.columns.isEmpty = true := by simpa using declared
  cases format with
  | csv =>
      refine ⟨fun records =>
        String.ofList ((set.columns :: records).flatMap Csv.writeRecord), ?_⟩
      rw [render, Csv.write, if_neg some]
      cases set.rows.mapM (Format.rowFields set.columns) <;> rfl
  | markdown =>
      refine ⟨fun rows => String.ofList (Markdown.writeRow set.columns ++
        Markdown.writeLine (set.columns.map (fun _ => ['-', '-', '-'])) ++
          rows.flatMap Markdown.writeRow), ?_⟩
      rw [render, Markdown.write, if_neg some]
      cases set.rows.mapM (Format.rowFields set.columns) <;> rfl

theorem render_of_no_columns (none : set.columns = []) (format : Format) :
    set.render format = .ok "" := by
  have empty : set.columns.isEmpty = true := List.isEmpty_iff.mpr none
  cases format with
  | csv => rw [render, Csv.write, if_pos empty]
  | markdown => rw [render, Markdown.write, if_pos empty]

theorem render_error_iff (declared : set.columns ≠ []) (format : Format) {e : Error} :
    set.render format = .error e ↔ set.Offends e := by
  rcases render_eq_map declared format with ⟨layout, rendered⟩
  rw [rendered, map_eq_error, mapM_eq_error]
  simp only [Format.rowFields_ok_iff, Format.rowFields_error_iff]
  exact Iff.rfl

theorem render_ok_iff (declared : set.columns ≠ []) (format : Format) :
    (exists text, set.render format = .ok text) ↔ set.AllFit := by
  constructor
  · rintro ⟨text, written⟩
    rcases render_eq_map declared format with ⟨layout, rendered⟩
    cases made : set.rows.mapM (Format.rowFields set.columns) with
    | error e =>
        rw [rendered, made] at written
        cases written
    | ok records => exact (Format.mapM_rowFields_eq_ok made).1
  · intro allFit
    cases rendered : set.render format with
    | ok text => exact ⟨text, rfl⟩
    | error e =>
        rcases (render_error_iff declared format).mp rendered
          with ⟨earlier, row, later, rows, _, offends⟩
        have fits : row.Fits set.columns := by
          apply allFit
          rw [rows]
          exact List.mem_append_right _ List.mem_cons_self
        cases (Format.rowFields_of_fits fits).symm.trans (Format.rowFields_error_iff.mpr offends)

/-- Both formats take a result with columns exactly if all its rows fit, and otherwise both refuse
it for its first row that does not.  A result without columns has no text, whatever its rows. -/
structure JudgedAlike (set : ResultSet) : Prop where
  bare : set.columns = [] -> forall format, set.render format = .ok ""
  taken : set.columns ≠ [] -> forall format,
    (exists text, set.render format = .ok text) ↔ set.AllFit
  refused : set.columns ≠ [] -> forall format e,
    set.render format = .error e ↔ set.Offends e

/-- Both formats judge every result alike, and take every result that was made of values only. -/
theorem judged_alike (set : ResultSet) :
    set.JudgedAlike ∧
      (set.ByValues -> forall format, exists text, set.render format = .ok text) := by
  constructor
  · exact ⟨render_of_no_columns, render_ok_iff, fun declared format _ =>
      render_error_iff declared format⟩
  · intro byValues format
    by_cases declared : set.columns = []
    · exact ⟨"", render_of_no_columns declared format⟩
    · exact (render_ok_iff declared format).mpr byValues.allFit

/-- The second row lacks the second column, which counts although a later row is too wide. -/
theorem judged_alike_of_short_row :
    let values := [.int 1, .null]
    let set := (ResultSet.new ["a", "b"]).addRow (.new ["a", "b"] values)
    let mixed := (set.addRow (.new ["a"] values)).addRow (.new ["a", "b", "c"] values)
    (forall format, exists text, set.render format = .ok text) ∧
      forall format, mixed.render format = .error (.missingColumn "b") := by
  intro values set mixed
  have added : (new ["a", "b"]).addValues values = .ok set := rfl
  have lack : Format.FirstLack ["a", "b"] ["a"] values 1 "b" := .cons (.head nofun)
  refine ⟨(judged_alike set).2 (.added (.new _) added), ?_⟩
  intro format
  apply ((judged_alike mixed).1.refused (List.cons_ne_nil _ _) format _).mpr
  refine ⟨[.new ["a", "b"] values], .new ["a"] values, [.new ["a", "b", "c"] values], rfl, ?_, ?_⟩
  · intro row member
    cases List.mem_singleton.mp member
    exact ⟨rfl, Nat.le_refl _⟩
  · exact .lacks (Nat.le_succ _) lack

end ResultSet
end ScopedSql
