import ScopedSql.ResultSet.Basic

namespace ScopedSql
namespace Format

/-!
# The fields of a row

Both formats write the display texts of a row in the declared order.  A row fits
if it carries exactly the declared names in the declared order and a value for
each; values are taken by position, so columns of one name keep their own
values.  A row with too many columns is refused for that, any other row for the
first declared column whose name or value it lacks.
-/

/-- The display texts under declared columns, given the names and values of a row. -/
def fieldsOf : List String -> List String -> List Value -> Except Error (List String)
  | [], _, _ => .ok []
  | column :: declared, name :: names, value :: values =>
    if name = column then
      (fieldsOf declared names values).map (value.display :: ·)
    else .error (.missingColumn column)
  | column :: _, _, _ => .error (.missingColumn column)

/-- The display texts of a row under declared columns. -/
def rowFields (declared : List String) (row : Row) : Except Error (List String) :=
  if declared.length < row.columns.length then
    .error (.execution (.rowColumns row.columns.length declared.length))
  else fieldsOf declared row.columns row.values

end Format
end ScopedSql
