import ScopedSql.Config.Basic
import ScopedSql.Json.Printer
import ScopedSql.Json.Skip
import ScopedSql.Text.Utf8

namespace ScopedSql
namespace Config

/-!
# Configuration files

A file holds a JSON object with the settings by name.  Settings that are not
there keep their standard value, names that are not known are passed over, and
no setting may stand twice.  A file may also hold a list with the settings in a
fixed order, of which the last ones may be left out.

What is written leaves the password out, so reading it back gives the same
configuration with an empty password.
-/

/-! ## The settings by name -/

/-- The settings, in the order in which they are written. -/
inductive Field
  | dsn
  | host
  | user
  | password
  | databaseName
  | port
  | parseTime
  | multiStatement
  | tls
  | tlsCaFile
  | branch
  | poolMaxSize
  deriving DecidableEq, Repr

namespace Field

def all : List Field :=
  [.dsn, .host, .user, .password, .databaseName, .port, .parseTime, .multiStatement, .tls,
    .tlsCaFile, .branch, .poolMaxSize]

def name : Field -> String
  | .dsn => "dsn"
  | .host => "host"
  | .user => "user"
  | .password => "password"
  | .databaseName => "database_name"
  | .port => "port"
  | .parseTime => "parse_time"
  | .multiStatement => "multi_statement"
  | .tls => "tls"
  | .tlsCaFile => "tls_ca_file"
  | .branch => "branch"
  | .poolMaxSize => "pool_max_size"

def ofName? (text : String) : Option Field :=
  all.find? (fun field => field.name = text)

end Field

/-! ## Reading -/

def readText (cs : List Char) : Option (String × List Char) :=
  match Json.skipSpace cs with
  | '"' :: rest => (Json.readString rest).map (fun read => (String.ofList read.1, read.2))
  | _ => none

def readOptional (cs : List Char) : Option (Option String × List Char) :=
  match Json.skipSpace cs with
  | 'n' :: 'u' :: 'l' :: 'l' :: rest => some (none, rest)
  | cs => (readText cs).map (fun read => (some read.1, read.2))

def readFlag (cs : List Char) : Option (Bool × List Char) :=
  match Json.skipSpace cs with
  | 't' :: 'r' :: 'u' :: 'e' :: rest => some (true, rest)
  | 'f' :: 'a' :: 'l' :: 's' :: 'e' :: rest => some (false, rest)
  | _ => none

/-- Read a number up to a largest one, written without sign, point and exponent. -/
def readCount (largest : Nat) (cs : List Char) : Option (Nat × List Char) := do
  let (lexeme, rest) <- Json.readNumber (Json.skipSpace cs)
  let n <- lexeme.whole?
  if !lexeme.negative && n.toNat ≤ largest then some (n.toNat, rest) else none

def asSetting {α : Type} (setting : α -> Setting) :
    Option (α × List Char) -> Option (Setting × List Char)
  | none => none
  | some (value, rest) => some (setting value, rest)

def readSetting (cs : List Char) : Field -> Option (Setting × List Char)
  | .dsn => asSetting .dsn (readOptional cs)
  | .host => asSetting .host (readText cs)
  | .user => asSetting .user (readText cs)
  | .password => asSetting .password (readText cs)
  | .databaseName => asSetting .databaseName (readOptional cs)
  | .port => asSetting .port (readCount largestPort cs)
  | .parseTime => asSetting .parseTime (readFlag cs)
  | .multiStatement => asSetting .multiStatement (readFlag cs)
  | .tls => asSetting .tls (readFlag cs)
  | .tlsCaFile => asSetting .tlsCaFile (readOptional cs)
  | .branch => asSetting .branch (readOptional cs)
  | .poolMaxSize => asSetting .poolMaxSize (readCount largestPool cs)

/-- Read a name and its value; of a name that is not known nothing is kept. -/
def readEntry (cs : List Char) : Option (Option (Field × Setting) × List Char) := do
  let (name, rest) <- Json.readName cs
  match Field.ofName? name with
  | none => (Json.skip rest).map (fun rest => (none, rest))
  | some field => (readSetting rest field).map (fun read => (some (field, read.1), read.2))

/-- Read the values of fields in order up to the closing bracket; the last ones may be missing. -/
def readInOrder : List Field -> List Char -> Option (List Setting × List Char)
  | [], _ => none
  | field :: fields, cs => do
    let (setting, rest) <- readSetting cs field
    match Json.skipSpace rest with
    | ']' :: rest => return ([setting], rest)
    | ',' :: rest =>
      let (settings, rest) <- readInOrder fields rest
      return (setting :: settings, rest)
    | _ => none

def readSettings (cs : List Char) : Option (List Setting × List Char) :=
  match Json.skipSpace cs with
  | '\x7b' :: rest => do
    let (entries, rest) <- Json.readAll '\x7d' readEntry rest
    let known := entries.filterMap id
    if (known.map (fun entry => entry.1)).Nodup then
      some (known.map (fun entry => entry.2), rest)
    else none
  | '[' :: rest =>
    match Json.skipSpace rest with
    | ']' :: rest => some ([], rest)
    | rest => readInOrder Field.all rest
  | _ => none

/-- Read a configuration that uses up a whole text. -/
def read (text : String) : Option Config :=
  match readSettings text.toList with
  | none => none
  | some (settings, rest) =>
    if (Json.skipSpace rest).isEmpty then some (standard.setAll settings) else none

/-- What a path leads to. -/
inductive FileContent
  | missing
  | directory
  | bytes (content : List UInt8)

def ofFile (path : String) : FileContent -> Except Error Config
  | .missing => .error (.config (.unreadable path .missing))
  | .directory => .error (.config (.unreadable path .directory))
  | .bytes content =>
    match Text.strict? content with
    | none => .error (.config (.unreadable path .notUtf8))
    | some text =>
      match read text with
      | none => .error (.config (.malformed path))
      | some config => .ok config

/-! ## Writing -/

def optionalText (text : Option String) : Json :=
  (text.map Json.text).getD .null

def count (n : Nat) : Json := .number (.whole n)

/-- The value of a field as it is written; the password is not. -/
def written? (config : Config) : Field -> Option Json
  | .dsn => some (optionalText config.dsn)
  | .host => some (.text config.host)
  | .user => some (.text config.user)
  | .password => none
  | .databaseName => some (optionalText config.databaseName)
  | .port => some (count config.port)
  | .parseTime => some (.bool config.parseTime)
  | .multiStatement => some (.bool config.multiStatement)
  | .tls => some (.bool config.tls)
  | .tlsCaFile => some (optionalText config.tlsCaFile)
  | .branch => some (optionalText config.branch)
  | .poolMaxSize => some (count config.poolMaxSize)

def writtenFields (config : Config) : List (String × Json) :=
  Field.all.filterMap (fun field => (config.written? field).map (fun value => (field.name, value)))

def write (config : Config) : String :=
  String.ofList ('\x7b' :: Json.printFields config.writtenFields ++ ['\x7d'])

end Config
end ScopedSql
