import ScopedSql.Config.Basic
import ScopedSql.Json.Lexeme
import ScopedSql.Url.Basic

namespace ScopedSql
namespace Config

/-!
# What a connection is made with

The separate settings are taken over as they are.  A connection text is read as
an address, with the scheme of the server put in front where none is written;
what it does not say has a standard value.  Encryption that the configuration
asks for goes before what the address asks for.
-/

/-- How far a connection is encrypted and the server is checked. -/
inductive SslMode
  | disabled
  | preferred
  | required
  | verifyCa
  | verifyIdentity
  deriving DecidableEq, Repr

def SslMode.word : SslMode -> String
  | .disabled => "disabled"
  | .preferred => "preferred"
  | .required => "required"
  | .verifyCa => "verify_ca"
  | .verifyIdentity => "verify_identity"

/-- The mode of a word in any ASCII case. -/
def SslMode.ofWord? (word : String) : Option SslMode :=
  [.disabled, .preferred, .required, .verifyCa, .verifyIdentity].find?
    (fun mode => mode.word = Text.lower word)

/-- The parameters that a connection is opened with, as far as a configuration sets them or an
address is refused for them.  A socket, a collation, a certificate of the client and its key can be
named in an address as well; these are for the driver alone. -/
structure ConnectOptions where
  host : String
  port : Nat
  user : String
  password : Option String
  database : Option String
  sslMode : SslMode
  /-- The file of an authority against which the server is checked. -/
  caFile : Option String
  charset : String
  deriving DecidableEq, Repr

namespace ConnectOptions

/-- What is used where an address says nothing. -/
def standard : ConnectOptions :=
  { host := "localhost", port := 3306, user := "root", password := none, database := none,
    sslMode := .preferred, caFile := none, charset := "utf8mb4" }

/-- Follow one pair of a query.  A pair that sets none of the parameters is passed over. -/
def withPair (options : ConnectOptions) (pair : String × String) : Option ConnectOptions :=
  if pair.1 = "sslmode" ∨ pair.1 = "ssl-mode" then
    (SslMode.ofWord? pair.2).map (fun mode => { options with sslMode := mode })
  else if pair.1 = "sslca" ∨ pair.1 = "ssl-ca" then some { options with caFile := some pair.2 }
  else if pair.1 = "charset" then some { options with charset := pair.2 }
  else if pair.1 = "statement-cache-capacity" then
    match Decimal.readNat Json.largestWord pair.2.toList with
    | .ok _ => some options
    | .error _ => none
  else some options

/-- The parameters that an address gives, if its parts are UTF-8 once decoded. -/
def ofUrl? (url : Url) : Option ConnectOptions := do
  let user <- Percent.decode? url.user
  let password <- url.password.mapM Percent.decode?
  let database <- Percent.decode? (url.path.dropWhile (fun c => c = '/'))
  let options := { standard with
    host := (url.host.map String.ofList).getD standard.host
    port := url.port.getD standard.port
    user := if user.isEmpty then standard.user else user
    password
    database := if database.isEmpty then none else some database }
  url.queryPairs.foldlM withPair options

end ConnectOptions

/-- Does the text name its scheme? -/
def namesScheme (dsn : String) : Bool := Text.contains dsn "://"

/-- The parameters that a connection text gives. -/
def readDsn (dsn : String) : Except Error ConnectOptions :=
  let address := if namesScheme dsn then dsn else "mysql://" ++ dsn
  match (Url.read address).bind ConnectOptions.ofUrl? with
  | some options => .ok options
  | none => .error (.config .dsn)

/-- The parameters that the separate settings give. -/
def separateOptions (config : Config) : Except Error ConnectOptions := do
  let database <- config.database.mapM (Name.check .database)
  return { ConnectOptions.standard with
    host := config.host
    port := config.port
    user := config.user
    password := some config.password
    sslMode := .disabled
    database }

/-- The mode of encryption that a configuration asks for by itself. -/
def requestedSslMode (config : Config) : Option SslMode :=
  if config.tlsCaFile.isSome then some .verifyCa
  else if config.tls then some .required
  else none

/-- The parameters of a connection.  The configuration is checked first, then the
branch that pooled sessions are held on, then the rest. -/
def connectOptions (config : Config) : Except Error ConnectOptions := do
  config.validate
  let _ <- config.pinnedBranch.mapM (Name.check .branch)
  let options <-
    match config.dsnOverride with
    | some dsn => readDsn dsn
    | none => config.separateOptions
  return { options with
    sslMode := config.requestedSslMode.getD options.sslMode
    caFile := config.tlsCaFile.or options.caFile }

end Config
end ScopedSql
