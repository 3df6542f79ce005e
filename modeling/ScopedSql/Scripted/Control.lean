import ScopedSql.Text.Blank

namespace ScopedSql
namespace Scripted

/-!
# How a session reads a statement

A session knows the statements that begin and end a transaction and those that
move it to a database or a branch.  White space around a statement, semicolons
at its end and the ASCII case of its words do not count.  Every other statement
is work to be kept by a commit.

What stands between the opening parenthesis of a checkout and the last character
of the statement is taken for the name of a branch.  A scripted session expects a
last character of one byte there, a closing parenthesis: on a checkout that ends
with the opening one, or with a character of several bytes, it does not answer at
all but breaks down.  This failure is not modelled: here such a statement is read
like any other checkout.
-/

/-- What a statement means to a session. -/
inductive Control
  | begin
  | commit
  | rollback
  | use (database : String)
  | checkout (branch : String)
  | work
  deriving DecidableEq, Repr

/-- A statement without white space around it and without semicolons at its end. -/
def bare (sql : List Char) : List Char :=
  Text.trimmed (Text.dropEndWhile (fun c => c = ';') (Text.trimmed sql))

def unquote (cs : List Char) : String :=
  String.ofList (Text.strip (fun c => c = '\x60' || c = '\'') (Text.trimmed cs))

/-- The characters after a beginning in capitals, whatever their case here. -/
def afterCapitals? (beginning : String) (cs : List Char) : Option (List Char) :=
  (Text.after? beginning.toList (cs.map Char.toUpper)).map
    (fun _ => cs.drop beginning.length)

def Control.read (sql : String) : Control :=
  let cs := bare sql.toList
  let word := String.ofList (cs.map Char.toUpper)
  if word = "START TRANSACTION" ∨ word = "BEGIN" then .begin
  else if word = "COMMIT" then .commit
  else if word = "ROLLBACK" then .rollback
  else
    match afterCapitals? "USE " cs with
    | some name => .use (unquote name)
    | none =>
      match afterCapitals? "CALL DOLT_CHECKOUT(" cs with
      | some name => .checkout (unquote name.dropLast)
      | none => .work

end Scripted
end ScopedSql
