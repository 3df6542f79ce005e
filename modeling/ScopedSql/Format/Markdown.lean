import ScopedSql.Format.Fields

namespace ScopedSql
namespace Markdown

/-!
# Pipe tables

A header line, a line of dashes, and one line for every row.  Every cell stands
between pipes with one space on either side.  A pipe in a cell is escaped by a
backslash and a line break becomes a mark, so no cell breaks its line.  A result
without columns has an empty text.
-/

/-- The mark that stands for a line break. -/
def breakMark : List Char := ['<', 'b', 'r', '>']

/-- The characters of a cell; a carriage return with a line feed is one break. -/
def escape : List Char -> List Char
  | [] => []
  | '\r' :: '\n' :: rest => breakMark ++ escape rest
  | c :: rest =>
    if c = '|' then '\\' :: '|' :: escape rest
    else if c = '\n' ∨ c = '\r' then breakMark ++ escape rest
    else c :: escape rest

/-- One cell and the pipe after it. -/
def writeCell (cell : List Char) : List Char :=
  ' ' :: cell ++ [' ', '|']

def writeLine (cells : List (List Char)) : List Char :=
  '|' :: cells.flatMap writeCell ++ ['\n']

def writeRow (fields : List String) : List Char :=
  writeLine (fields.map (fun field => escape field.toList))

/-- A result as a text; rows that do not fit the declared columns are refused. -/
def write (set : ResultSet) : Except Error String :=
  if set.columns.isEmpty then .ok ""
  else do
    let rows <- set.rows.mapM (Format.rowFields set.columns)
    return String.ofList
      (writeRow set.columns ++ writeLine (set.columns.map (fun _ => ['-', '-', '-'])) ++
        rows.flatMap writeRow)

end Markdown
end ScopedSql
