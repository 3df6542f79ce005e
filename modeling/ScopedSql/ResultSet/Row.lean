import ScopedSql.Value

namespace ScopedSql

/-!
# Rows

A row carries its own column names, its values, and an index from names to
positions.  Names may repeat, and a row may have fewer or more values than
names.  The index keeps the first position of every name.  A look-up by name asks
the index first and scans the names where the index says nothing.
-/

/-- The first position of every name. -/
abbrev ColumnIndex := List (String × Nat)

namespace ColumnIndex

/-- Enter names from a position on; a name that is in the index already keeps its position. -/
def enter (index : ColumnIndex) (position : Nat) : List String -> ColumnIndex
  | [] => index
  | name :: names =>
    enter (if (index.lookup name).isSome then index else index ++ [(name, position)])
      (position + 1) names

def ofColumns (columns : List String) : ColumnIndex :=
  enter [] 0 columns

end ColumnIndex

/-- A row of a result. -/
structure Row where
  columns : List String
  values : List Value
  index : ColumnIndex

namespace Row

def new (columns : List String) (values : List Value) : Row :=
  { columns, values, index := ColumnIndex.ofColumns columns }

/-- The first position at which the row's own names hold a column. -/
def scan? (row : Row) (column : String) : Option Nat :=
  row.columns.findIdx? (fun name => name = column)

/-- The position of a column, from the index or else from a scan of the names. -/
def position? (row : Row) (column : String) : Option Nat :=
  (row.index.lookup column).or (row.scan? column)

/-- The value in a column; none if there is no such column or no value at its position. -/
def value? (row : Row) (column : String) : Option Value :=
  (row.position? column).bind (fun position => row.values[position]?)

def valueAt? (row : Row) (position : Nat) : Option Value :=
  row.values[position]?

/-- Names and values side by side, as far as both go. -/
def cells (row : Row) : List (String × Value) :=
  row.columns.zip row.values

end Row
end ScopedSql
