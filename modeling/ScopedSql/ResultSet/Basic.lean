import ScopedSql.Error
import ScopedSql.ResultSet.Row

namespace ScopedSql

/-!
# Result sets

A result set declares its columns and collects rows.  Values are added only in
the declared width and share the declared columns; a whole row is added as it
is, whatever columns it has.
-/

/-- The rows of a statement's result under declared columns. -/
structure ResultSet where
  columns : List String
  index : ColumnIndex
  rows : List Row
  affected : Nat

namespace ResultSet

def new (columns : List String) : ResultSet :=
  { columns, index := ColumnIndex.ofColumns columns, rows := [], affected := 0 }

def empty : ResultSet := new []

def size (set : ResultSet) : Nat := set.rows.length

def addRow (set : ResultSet) (row : Row) : ResultSet :=
  { set with rows := set.rows ++ [row], affected := set.affected + 1 }

/-- Add values as a row of the declared columns; their number must be the declared one. -/
def addValues (set : ResultSet) (values : List Value) : Except Error ResultSet :=
  if values.length = set.columns.length then
    .ok (set.addRow { columns := set.columns, values, index := set.index })
  else .error (.execution (.rowWidth values.length set.columns.length))

/-- A result from the values of all its rows. -/
def ofRows (columns : List String) (rows : List (List Value)) : Except Error ResultSet :=
  rows.foldlM addValues (new columns)

end ResultSet
end ScopedSql
