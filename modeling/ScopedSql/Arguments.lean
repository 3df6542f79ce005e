import ScopedSql.Decimal.Nearest
import ScopedSql.Format.Name
import ScopedSql.Json.Printer

namespace ScopedSql

/-!
# Arguments by name

A request carries loosely typed arguments as the fields of a JSON object.  They
are read through accessors, one for each type.  A missing argument, a null one
and an empty text all count as absent.
-/

/-- The arguments of a request. -/
structure Arguments where
  fields : List (String × Json)

namespace Arguments

/-- Arguments from a JSON value: an object, or null for no arguments. -/
def ofJson : Json -> Except Error Arguments
  | .object fields => .ok ⟨fields⟩
  | .null => .ok ⟨[]⟩
  | other => .error (.argument "arguments" (.notObject other.compact))

def set (arguments : Arguments) (name : String) (value : Json) : Arguments :=
  ⟨Json.putField name value arguments.fields⟩

/-- The value of an argument; null counts as none. -/
def value? (arguments : Arguments) (name : String) : Option Json :=
  match Json.field? name arguments.fields with
  | some .null => none
  | found => found

/-- A text that may be absent. -/
def text? (arguments : Arguments) (name : String) : Except Error (Option String) :=
  match arguments.value? name with
  | none => .ok none
  | some (.text s) => .ok (if s = "" then none else some s)
  | some other => .error (.argument name (.notString other.compact))

/-- A text that must be given. -/
def text (arguments : Arguments) (name : String) : Except Error String := do
  match <- arguments.text? name with
  | some s => return s
  | none => throw (.argument name .required)

/-- A truth value, false when absent. -/
def flag (arguments : Arguments) (name : String) : Except Error Bool :=
  match arguments.value? name with
  | none => .ok false
  | some (.bool b) => .ok b
  | some other => .error (.argument name (.notBoolean other.compact))

def double : JsonNumber -> Float
  | .whole z =>
    let size := Decimal.nearest z.natAbs 0
    if z < 0 then -size else size
  | .real x => x

def number? (arguments : Arguments) (name : String) : Except Error (Option Float) :=
  match arguments.value? name with
  | none => .ok none
  | some (.number n) => .ok (some (double n))
  | some other => .error (.argument name (.notNumber other.compact))

def format (arguments : Arguments) : Except Error Format := do
  match <- arguments.text? Format.argumentName with
  | some name => Format.parse name
  | none => return Format.standard

end Arguments
end ScopedSql
