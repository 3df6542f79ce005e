import ScopedSql.Json.Reader
import ScopedSql.Text.Blank
import ScopedSql.Value

namespace ScopedSql
namespace Wire

/-!
# Cells of the text protocol

Every value that is not NULL arrives as bytes, and the name of the column's type
says how to read them.  Only the first word of the name counts.  A name is put into
capitals before its bytes are decoded, so that its ASCII case does not count
either.  Bytes that cannot be read as their type says are taken as text, so a
number too large for a value keeps its digits.
-/

/-- How the bytes of a type are read. -/
inductive Reading
  | truth
  | integer
  | real
  | moment
  | json
  | binary
  | bits
  | text
  deriving DecidableEq, Repr

/-- The first word of a type name. -/
def baseName (typeName : String) : String :=
  String.ofList (typeName.toList.takeWhile (fun c => !(c = ' ' || c = '(')))

/-- How the bytes of a type are read, by the first word of its name. -/
def Reading.ofBase (base : String) : Reading :=
  if ["BOOLEAN", "BOOL"].contains base then .truth
  else if ["TINYINT", "SMALLINT", "MEDIUMINT", "INT", "INTEGER", "BIGINT", "YEAR"].contains base
  then .integer
  else if ["FLOAT", "DOUBLE"].contains base then .real
  else if ["DATETIME", "TIMESTAMP"].contains base then .moment
  else if base = "JSON" then .json
  else if ["BINARY", "VARBINARY", "BLOB", "TINYBLOB", "MEDIUMBLOB", "LONGBLOB",
    "GEOMETRY"].contains base then .binary
  else if base = "BIT" then .bits
  else .text

def bigEndian (bytes : List UInt8) : Nat :=
  bytes.foldl (fun n b => n * 256 + b.toNat) 0

/-- The number of 64 bits with a sign that agrees with a number on its last 64 bits. -/
def signed (n : Nat) : Int := (n : Int).bmod (Nat.pow 2 64)

def readInteger (text : String) : Value :=
  match Decimal.readInt (Nat.pow 2 63) text.toList with
  | .ok z => .int z
  | .error _ => .text text

def readReal (text : String) : Value :=
  ((Decimal.readFloat text.toList).map Value.float).getD (.text text)

def readMoment (text : String) : Value :=
  ((Time.Timestamp.read text).map Value.timestamp).getD (.text text)

def readJson (bytes : List UInt8) : Value :=
  (((Text.strict? bytes).bind Json.read).map Value.json).getD (.text (Text.lossy bytes))

/-- The value that bytes of a type stand for, the name of which is given in capitals.  Dates and
times stay texts unless asked for. -/
def decode (typeName : String) (parseTime : Bool) (bytes : List UInt8) : Value :=
  match Reading.ofBase (baseName typeName) with
  | .truth => .bool (bytes ≠ [0x30])
  | .integer => readInteger (Text.lossy bytes)
  | .real => readReal (Text.lossy bytes)
  | .moment => if parseTime then readMoment (Text.lossy bytes) else .text (Text.lossy bytes)
  | .json => readJson bytes
  | .binary => .blob bytes
  | .bits => .int (signed (bigEndian bytes))
  | .text => .text (Text.lossy bytes)

def decodeCell (typeName : String) (parseTime : Bool) : Option (List UInt8) -> Value
  | none => .null
  | some bytes => decode (Text.upper typeName) parseTime bytes

end Wire
end ScopedSql
