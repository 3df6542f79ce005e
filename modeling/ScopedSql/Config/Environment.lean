import ScopedSql.Config.Basic

namespace ScopedSql
namespace Config

/-!
# Configurations from the environment

Every setting has a variable.  A blank variable counts as not set, except the
password, which is taken as it is.  Flags are words in any ASCII case and
numbers are decimal; both may have white space around them.  Of several faults
the one that is reported is the first in the order flags, port, pool size.
-/

/-- Names with values; of one name the first counts. -/
abbrev Environment := List (String × String)

namespace Environment

/-- The value of a variable that is not blank. -/
def value? (environment : Environment) (key : String) : Option String :=
  given (environment.lookup key)

def trueWords : List String := ["1", "true", "yes", "on"]

def falseWords : List String := ["0", "false", "no", "off"]

/-- A truth value, false when not set. -/
def flag (environment : Environment) (key : String) : Except Error Bool :=
  match environment.value? key with
  | none => .ok false
  | some value =>
    let word := Text.lower (Text.trim value)
    if trueWords.contains word then .ok true
    else if falseWords.contains word then .ok false
    else .error (.config (.flag key word))

/-- A number up to a largest one, or another one when not set. -/
def number (environment : Environment) (key : String) (largest standard : Nat) :
    Except Error Nat :=
  match environment.value? key with
  | none => .ok standard
  | some value =>
    match Decimal.readNat largest (Text.trimmed value.toList) with
    | .ok n => .ok n
    | .error cause => .error (.config (.number key value cause))

end Environment

/-- The configuration that an environment spells out. -/
def ofEnvironment (environment : Environment) : Except Error Config := do
  let parseTime <- environment.flag "DOLT_PARSE_TIME"
  let multiStatement <- environment.flag "DOLT_MULTI_STATEMENT"
  let tls <- environment.flag "DOLT_TLS"
  let port <- environment.number "DOLT_PORT" largestPort standard.port
  let poolMaxSize <- environment.number "DOLT_POOL_MAX_SIZE" largestPool standard.poolMaxSize
  return {
    dsn := environment.value? "DOLT_DSN"
    host := (environment.value? "DOLT_HOST").getD standard.host
    user := (environment.value? "DOLT_USER").getD standard.user
    password := (environment.lookup "DOLT_PASSWORD").getD standard.password
    databaseName := environment.value? "DOLT_DATABASE"
    tlsCaFile := environment.value? "DOLT_TLS_CA_FILE"
    branch := environment.value? "DOLT_BRANCH"
    parseTime, multiStatement, tls, port, poolMaxSize }

end Config
end ScopedSql
