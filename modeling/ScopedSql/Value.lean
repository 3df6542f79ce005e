import ScopedSql.Json.Printer
import ScopedSql.Text.Utf8
import ScopedSql.Time.Printer
import ScopedSql.Time.Reader

namespace ScopedSql

/-!
# Cell values

A value is what one cell of a result holds.  Its display text is the one form
that every output format uses: NULL shows as nothing, and bytes show as the
text they spell.
-/

/-- The value of one cell. -/
inductive Value
  | null
  | int (z : Int)
  | float (x : Float)
  | text (s : String)
  | bool (b : Bool)
  | timestamp (t : Time.Timestamp)
  | json (j : Json)
  | blob (bytes : List UInt8)

namespace Value

def display : Value -> String
  | .null => ""
  | .int z => String.ofList (Decimal.text z)
  | .float x => String.ofList (Decimal.Layout.plain.write x)
  | .text s => s
  | .bool b => if b then "true" else "false"
  | .timestamp t => t.text
  | .json j => j.compact
  | .blob bytes => Text.lossy bytes

def isNull : Value -> Bool
  | .null => true
  | _ => false

def int? : Value -> Option Int
  | .int z => some z
  | _ => none

def float? : Value -> Option Float
  | .float x => some x
  | _ => none

def text? : Value -> Option String
  | .text s => some s
  | _ => none

def blob? : Value -> Option (List UInt8)
  | .blob bytes => some bytes
  | _ => none

/-- A truth value, also one that is given as the number one or zero. -/
def bool? : Value -> Option Bool
  | .bool b => some b
  | .int z => if z = 1 then some true else if z = 0 then some false else none
  | _ => none

/-- A timestamp, also one that is spelled in a text. -/
def timestamp? : Value -> Option Time.Timestamp
  | .timestamp t => some t
  | .text s => Time.Timestamp.read s
  | _ => none

/-- Is the value equal to itself?  All values are but the float that is no number. -/
def equalsItself : Value -> Bool
  | .float x => x == x
  | _ => true

end Value
end ScopedSql
