import ScopedSql.Decimal.Whole
import ScopedSql.Name.Grammar
import ScopedSql.Sql.Statement
import ScopedSql.Text.Quoted

namespace ScopedSql

/-!
# What can go wrong

An error names its cause.  The wording of every cause is given once, by
`Error.message`.  The configuration errors are those that are found before any
connection is tried.
-/

/-- How a transaction ended. -/
inductive Ending
  | committed
  | rolledBack
  deriving DecidableEq, Repr

def Ending.word : Ending -> String
  | .committed => "Committed"
  | .rolledBack => "RolledBack"

/-- What a database server reports, or the loss of the connection to it. -/
inductive ServerFault
  | reported (code : Nat) (state text : String)
  | lost
  deriving DecidableEq, Repr

/-- Why a file cannot be read. -/
inductive FileFault
  | missing
  | directory
  | notUtf8
  deriving DecidableEq, Repr

/-- What is wrong with a configuration. -/
inductive ConfigFault
  | dsn
  | unreadable (path : String) (cause : FileFault)
  | malformed (path : String)
  | number (key value : String) (cause : Decimal.WholeFault)
  | flag (key value : String)
  deriving DecidableEq, Repr

/-- Why no session could be had. -/
inductive ConnectionFault
  | refused (text : String)
  | poolExhausted
  deriving DecidableEq, Repr

/-- Why a statement or its result failed. -/
inductive ExecutionFault
  | reported (text : String)
  | rowWidth (values columns : Nat)
  | rowColumns (columns declared : Nat)
  | mixedResults (expected found : List String)
  deriving DecidableEq, Repr

/-- What is wrong with an argument.  A rejected value is given as its JSON text. -/
inductive ArgumentFault
  | required
  | notString (value : String)
  | notBoolean (value : String)
  | notNumber (value : String)
  | notObject (value : String)
  | unknownFormat (name : String)
  | noStatement
  deriving DecidableEq, Repr

/-- Every failure that a caller can see. -/
inductive Error
  | noHost
  | noUser
  | noPort
  | noDatabase
  | server (fault : ServerFault)
  | config (fault : ConfigFault)
  | connection (fault : ConnectionFault)
  | execution (fault : ExecutionFault)
  | invalidName (kind : Name.Kind) (name : String)
  | missingColumn (column : String)
  | argument (name : String) (fault : ArgumentFault)
  | unexpectedKind (expected : Sql.StatementKind) (sql : String)
  | finished (ending : Ending)
  | cancelled (operation : String)
  | timedOut (operation : String)
  deriving DecidableEq, Repr

def countText (n : Nat) : String :=
  String.ofList (Decimal.digits n)

def ServerFault.message : ServerFault -> String
  | .reported code state text =>
    "error returned from database: " ++ countText code ++ " (" ++ state ++ "): " ++ text
  | .lost => "error communicating with database"

def FileFault.message : FileFault -> String
  | .missing => "No such file or directory (os error 2)"
  | .directory => "Is a directory (os error 21)"
  | .notUtf8 => "stream did not contain valid UTF-8"

def ConfigFault.message : ConfigFault -> String
  | .dsn => "invalid DSN override"
  | .unreadable path cause => "reading " ++ path ++ ": " ++ cause.message
  | .malformed path => "parsing " ++ path
  | .number key value cause => key ++ " " ++ Text.quoted value ++ ": " ++ cause.message
  | .flag key value => key ++ ": expected a boolean, got " ++ Text.quoted value

def ConnectionFault.message : ConnectionFault -> String
  | .refused text => text
  | .poolExhausted => "timed out waiting for pooled connection"

def ExecutionFault.message : ExecutionFault -> String
  | .reported text => text
  | .rowWidth values columns =>
    "row has " ++ countText values ++ " values for " ++ countText columns ++ " columns"
  | .rowColumns columns declared =>
    "row has " ++ countText columns ++ " columns, result declares " ++ countText declared
  | .mixedResults expected found =>
    "statement returned multiple result sets: expected columns " ++
      Text.quotedList expected ++ ", got " ++ Text.quotedList found

def ArgumentFault.message : ArgumentFault -> String
  | .required => "is required"
  | .notString value => "must be a string, got " ++ value
  | .notBoolean value => "must be a boolean, got " ++ value
  | .notNumber value => "must be a number, got " ++ value
  | .notObject value => "must be an object, got " ++ value
  | .unknownFormat name => "must be one of csv, markdown (got " ++ Text.quoted name ++ ")"
  | .noStatement => "contains no SQL statement"

namespace Error

def message : Error -> String
  | .noHost => "no host defined"
  | .noUser => "no user defined"
  | .noPort => "no port defined"
  | .noDatabase => "no database name defined"
  | .server fault => fault.message
  | .config fault => "Configuration error: " ++ fault.message
  | .connection fault => "Connection error: " ++ fault.message
  | .execution fault => "SQL execution error: " ++ fault.message
  | .invalidName kind name => "invalid " ++ kind.word ++ " name: " ++ Text.quoted name
  | .missingColumn column => "row is missing expected column: " ++ column
  | .argument name fault => "argument " ++ Text.quoted name ++ " " ++ fault.message
  | .unexpectedKind expected sql => "expected a " ++ expected.word ++ " statement: " ++ sql
  | .finished ending => "transaction already finished (" ++ ending.word ++ ")"
  | .cancelled operation => operation ++ " cancelled"
  | .timedOut operation => operation ++ " timed out"

/-- Is the error found in the configuration, before any connection is tried? -/
def isConfig : Error -> Bool
  | .noHost | .noUser | .noPort | .noDatabase | .config _ => true
  | _ => false

/-- A failure that a script or a caller words itself. -/
def reported (text : String) : Error :=
  .execution (.reported text)

end Error
end ScopedSql
