import ScopedSql.Error
import ScopedSql.Text.Blank

namespace ScopedSql

/-!
# Output formats by name

Three readers know the names of the formats.  The lenient one takes any ASCII
case, white space around the name, and a short name for Markdown; the others
take exactly the names, one of them in any ASCII case.
-/

/-- The formats in which a result can be written. -/
inductive Format
  | csv
  | markdown
  deriving DecidableEq, Repr

namespace Format

def name : Format -> String
  | .csv => "csv"
  | .markdown => "markdown"

/-- The format that is used when none is asked for. -/
def standard : Format := .markdown

def argumentName : String := "result_format"

def ofName? (text : String) : Option Format :=
  if text = "csv" then some .csv
  else if text = "markdown" then some .markdown
  else none

/-- The name of a format in any ASCII case. -/
def ofNameAnyCase? (text : String) : Option Format :=
  ofName? (Text.lower text)

/-- A name as a caller may write it. -/
def parse (text : String) : Except Error Format :=
  let word := Text.lower (Text.trim text)
  if word = "csv" then .ok .csv
  else if word = "markdown" ∨ word = "md" then .ok .markdown
  else .error (.argument argumentName (.unknownFormat word))

end Format
end ScopedSql
