namespace ScopedSql

/-!
# JSON values

A number is a whole number where the text gave one in the 64-bit range, and a
double otherwise.  The fields of an object are kept in ascending order of their
names, each name once: putting a field replaces an older one of the same name.
-/

/-- A JSON number. -/
inductive JsonNumber
  | whole (z : Int)
  | real (x : Float)

/-- A JSON value. -/
inductive Json
  | null
  | bool (b : Bool)
  | number (n : JsonNumber)
  | text (s : String)
  | list (elements : List Json)
  | object (fields : List (String × Json))

namespace Json

/-- Put a field into fields that stand in ascending order. -/
def putField {α : Type} (name : String) (value : α) : List (String × α) -> List (String × α)
  | [] => [(name, value)]
  | (other, kept) :: rest =>
    if name < other then (name, value) :: (other, kept) :: rest
    else if name = other then (name, value) :: rest
    else (other, kept) :: putField name value rest

/-- Fields in ascending order from fields as they were written; the last of one name counts. -/
def sortFields {α : Type} (fields : List (String × α)) : List (String × α) :=
  fields.foldl (fun sorted field => putField field.1 field.2 sorted) []

/-- The value of the first field of this name. -/
def field? {α : Type} (name : String) : List (String × α) -> Option α
  | [] => none
  | (other, value) :: rest => if other = name then some value else field? name rest

end Json
end ScopedSql
