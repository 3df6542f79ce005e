import ScopedSql.Format.Fields

namespace ScopedSql

/-!
# Rows that fit

A row fits declared columns if it carries exactly their names, in their order,
and a value for each.  The fields of a row that fits are the display texts of
its values at the declared positions, and a row that does not fit has none.
-/

/-- The row carries the declared names and no others, and a value for each. -/
structure Row.Fits (declared : List String) (row : Row) : Prop where
  names : row.columns = declared
  valued : declared.length ≤ row.values.length

/-- The display texts of the values at the first positions. -/
def Row.texts (width : Nat) (row : Row) : List String :=
  (row.values.take width).map Value.display

theorem Row.Fits.length_texts {declared : List String} {row : Row} (fits : row.Fits declared) :
    (row.texts declared.length).length = declared.length := by
  rw [Row.texts, List.length_map, List.length_take]
  exact Nat.min_eq_left fits.valued

namespace Format

theorem fieldsOf_eq_ok {declared names : List String} {values : List Value}
    {fields : List String} (made : fieldsOf declared names values = .ok fields) :
    declared <+: names ∧ declared.length ≤ values.length ∧
      fields = (values.take declared.length).map Value.display := by
  induction declared generalizing names values fields with
  | nil =>
      cases made
      exact ⟨List.nil_prefix, Nat.zero_le _, rfl⟩
  | cons column declared inductionHypothesis =>
      rcases names with _ | ⟨name, names⟩
      · cases made
      rcases values with _ | ⟨value, values⟩
      · cases made
      rw [fieldsOf] at made
      split at made
      · rename_i same
        cases rest : fieldsOf declared names values with
        | error e =>
            rw [rest] at made
            cases made
        | ok others =>
            rw [rest] at made
            cases made
            rcases inductionHypothesis rest with ⟨begins, enough, texts⟩
            refine ⟨same ▸ (List.prefix_cons_inj name).mpr begins, Nat.succ_le_succ enough, ?_⟩
            rw [texts]
            rfl
      · cases made

/-- The fields of a row are its display texts, and only a row that fits has them. -/
theorem rowFields_eq_ok {declared : List String} {row : Row} {fields : List String}
    (made : rowFields declared row = .ok fields) :
    row.Fits declared ∧ fields = row.texts declared.length := by
  rw [rowFields] at made
  split at made
  · cases made
  · rename_i narrow
    rcases fieldsOf_eq_ok made with ⟨begins, enough, texts⟩
    have whole := begins.eq_of_length_le (Nat.le_of_not_lt narrow)
    exact ⟨⟨whole.symm, enough⟩, texts⟩

/-- The fields of several rows, if all of them fit. -/
theorem mapM_rowFields_eq_ok {declared : List String} {rows : List Row}
    {records : List (List String)} (made : rows.mapM (rowFields declared) = .ok records) :
    (forall row, row ∈ rows -> row.Fits declared) ∧
      records = rows.map (Row.texts declared.length) := by
  induction rows generalizing records with
  | nil =>
      cases made
      exact ⟨fun _ member => (nomatch member), rfl⟩
  | cons row rows inductionHypothesis =>
      rw [List.mapM_cons] at made
      cases first : rowFields declared row with
      | error e =>
          rw [first] at made
          cases made
      | ok fields =>
          cases rest : rows.mapM (rowFields declared) with
          | error e =>
              rw [first, rest] at made
              cases made
          | ok others =>
              rw [first, rest] at made
              cases made
              rcases rowFields_eq_ok first with ⟨fits, texts⟩
              rcases inductionHypothesis rest with ⟨allFit, allTexts⟩
              refine ⟨?_, by rw [texts, allTexts, List.map_cons]⟩
              intro other member
              rcases List.mem_cons.mp member with rfl | member
              · exact fits
              · exact allFit other member

end Format
end ScopedSql
