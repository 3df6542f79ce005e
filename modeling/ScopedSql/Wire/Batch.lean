import ScopedSql.ResultSet.Basic
import ScopedSql.Wire.Cell

namespace ScopedSql
namespace Wire

/-!
# Results of a batch

A text may hold several statements, and the rows of all their results arrive one
after the other.  They make one result set only if all rows carry the same
columns.
-/

/-- A column: its name and the name of its type. -/
structure Column where
  name : String
  typeName : String
  deriving DecidableEq, Repr

/-- A row as it arrives: its columns and a cell for each, none for NULL. -/
structure Line where
  columns : List Column
  cells : List (Option (List UInt8))
  deriving DecidableEq, Repr

def Line.names (line : Line) : List String :=
  line.columns.map Column.name

def Line.values (line : Line) (parseTime : Bool) : List Value :=
  List.zipWith (fun column cell => decodeCell column.typeName parseTime cell)
    line.columns line.cells

/-- Add a row, which must carry the columns of the result. -/
def addLine (parseTime : Bool) (set : ResultSet) (line : Line) : Except Error ResultSet :=
  if line.names = set.columns then set.addValues (line.values parseTime)
  else .error (.execution (.mixedResults set.columns line.names))

/-- The columns of a result: those of the first row, or others if there is no row. -/
def header (fallback : List String) : List Line -> List String
  | [] => fallback
  | line :: _ => line.names

/-- One result set from rows. -/
def collect (parseTime : Bool) (fallback : List String) (lines : List Line) :
    Except Error ResultSet :=
  lines.foldlM (addLine parseTime) (ResultSet.new (header fallback lines))

end Wire
end ScopedSql
