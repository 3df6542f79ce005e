import ScopedSql.Format.Fields

namespace ScopedSql
namespace Csv

/-!
# Comma-separated values

The first record holds the column names, every further record a row.  Fields
are separated by commas and every record ends in a line feed.  A field is
quoted if it starts with a space or a tab, or holds a comma, a quote, a carriage
return or a line feed; inside quotes a quote is written twice.  A result without
columns has an empty text.

Reading takes the same shape back.  Quotes may start and stop anywhere in a
field, a carriage return outside quotes is dropped, and the last record needs no
line feed.
-/

/-! ## Writing -/

/-- Does a field need quotes? -/
def needsQuotes (field : List Char) : Bool :=
  field.head? = some ' ' || field.head? = some '\t' ||
    field.any (fun c => c = ',' || c = '"' || c = '\r' || c = '\n')

/-- A quote is written twice, everything else once. -/
def doubleQuotes (field : List Char) : List Char :=
  field.flatMap (fun c => if c = '"' then ['"', '"'] else [c])

def writeField (field : List Char) : List Char :=
  if needsQuotes field then '"' :: doubleQuotes field ++ ['"'] else field

def writeFields : List (List Char) -> List Char
  | [] => []
  | [field] => writeField field
  | field :: fields => writeField field ++ ',' :: writeFields fields

def writeRecord (fields : List String) : List Char :=
  writeFields (fields.map String.toList) ++ ['\n']

/-- A result as a text; rows that do not fit the declared columns are refused. -/
def write (set : ResultSet) : Except Error String :=
  if set.columns.isEmpty then .ok ""
  else do
    let records <- set.rows.mapM (Format.rowFields set.columns)
    return String.ofList ((set.columns :: records).flatMap writeRecord)

/-! ## Reading -/

/-- A reader inside a record: the records, fields and characters read so far. -/
structure Reader where
  records : List (List String)
  record : List String
  field : List Char
  deriving DecidableEq, Repr

def Reader.endField (r : Reader) : Reader :=
  { r with record := r.record ++ [String.ofList r.field], field := [] }

def Reader.endRecord (r : Reader) : Reader :=
  { records := r.records ++ [r.endField.record], record := [], field := [] }

def Reader.push (r : Reader) (c : Char) : Reader :=
  { r with field := r.field ++ [c] }

/-- What was read when the text ends: a record that has begun counts. -/
def Reader.finish (r : Reader) : List (List String) :=
  if r.field.isEmpty ∧ r.record.isEmpty then r.records else r.endRecord.records

/-- Read characters, inside quotes or outside. -/
def readFrom (r : Reader) : Bool -> List Char -> List (List String)
  | _, [] => r.finish
  | true, '"' :: '"' :: rest => readFrom (r.push '"') true rest
  | true, c :: rest => if c = '"' then readFrom r false rest else readFrom (r.push c) true rest
  | false, c :: rest =>
    if c = '"' then readFrom r true rest
    else if c = ',' then readFrom r.endField false rest
    else if c = '\n' then readFrom r.endRecord false rest
    else if c = '\r' then readFrom r false rest
    else readFrom (r.push c) false rest

def read (text : String) : List (List String) :=
  readFrom { records := [], record := [], field := [] } false text.toList

end Csv
end ScopedSql
