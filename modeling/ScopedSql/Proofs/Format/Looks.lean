import ScopedSql.Format.Render
import ScopedSql.Proofs.Outcome

namespace ScopedSql

/-!
# Looks

A result looks like another one if it has the same columns and displays the same
texts for its values.  No format tells two such results apart, whatever values
the texts stand for, and adding values that are displayed alike keeps the looks
equal.
-/

/-! ## Rows and results -/

/-- The columns of a row and the texts that are displayed for its values. -/
def Row.looks (row : Row) : List String × List String :=
  (row.columns, row.values.map Value.display)

/-- The columns of a result and the looks of its rows. -/
def ResultSet.looks (set : ResultSet) : List String × List (List String × List String) :=
  (set.columns, set.rows.map Row.looks)

namespace Format

variable {declared : List String}

theorem fieldsOf_congr {names : List String} {values others : List Value}
    (same : values.map Value.display = others.map Value.display) :
    fieldsOf declared names values = fieldsOf declared names others := by
  induction declared generalizing names values others with
  | nil => rfl
  | cons column declared inductionHypothesis =>
      cases names with
      | nil => rfl
      | cons name names =>
          cases values with
          | nil =>
              cases List.map_eq_nil_iff.mp same.symm
              rfl
          | cons value values =>
              rcases List.map_eq_cons_iff.mp same.symm with ⟨other, others', rfl, shown, rest⟩
              rw [fieldsOf, fieldsOf, inductionHypothesis rest.symm, shown]

theorem rowFields_congr {row other : Row} (same : row.looks = other.looks) :
    rowFields declared row = rowFields declared other := by
  rcases Prod.mk.inj same with ⟨columns, values⟩
  rw [rowFields, rowFields, columns, fieldsOf_congr values]

theorem mapM_rowFields_congr {rows others : List Row}
    (same : rows.map Row.looks = others.map Row.looks) :
    rows.mapM (rowFields declared) = others.mapM (rowFields declared) := by
  induction rows generalizing others with
  | nil =>
      cases List.map_eq_nil_iff.mp same.symm
      rfl
  | cons row rows inductionHypothesis =>
      rcases List.map_eq_cons_iff.mp same.symm with ⟨other, others', rfl, first, rest⟩
      rw [List.mapM_cons, List.mapM_cons, inductionHypothesis rest.symm,
        rowFields_congr first]

end Format

namespace ResultSet

variable {set other : ResultSet}

/-- Every format writes a result by its looks alone. -/
theorem render_congr (same : set.looks = other.looks) (format : Format) :
    set.render format = other.render format := by
  rcases Prod.mk.inj same with ⟨columns, rows⟩
  cases format with
  | csv => rw [render, render, Csv.write, Csv.write, columns, Format.mapM_rowFields_congr rows]
  | markdown =>
      rw [render, render, Markdown.write, Markdown.write, columns,
        Format.mapM_rowFields_congr rows]

theorem looks_addValues (same : set.looks = other.looks) {values values' : List Value}
    (shown : values.map Value.display = values'.map Value.display) :
    (set.addValues values).map looks = (other.addValues values').map looks := by
  rcases Prod.mk.inj same with ⟨columns, rows⟩
  have width : values.length = values'.length := by
    rw [← List.length_map (f := Value.display), shown, List.length_map]
  rw [addValues, addValues, width, columns]
  split
  · simp only [Except.map, looks, addRow, List.map_append, rows, columns, Row.looks,
      List.map_cons, List.map_nil, shown]
  · rfl

end ResultSet

end ScopedSql
