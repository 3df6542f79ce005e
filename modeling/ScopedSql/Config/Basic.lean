import ScopedSql.Error
import ScopedSql.Scope

namespace ScopedSql

/-!
# Configurations

A configuration says how to reach a server, either by one connection text or by
separate settings.  When a connection text is given it is used as it stands.
Blank texts count as not given.

A configuration is built from settings, one for each field, so that every way of
giving a configuration ends in the same list of settings.
-/

/-- The parameters of a connection. -/
structure Config where
  dsn : Option String
  host : String
  user : String
  password : String
  databaseName : Option String
  port : Nat
  parseTime : Bool
  multiStatement : Bool
  tls : Bool
  /-- The path of a file, kept as the text that was given.  Two spellings of one path are different
  here, and a path that is no text in Unicode cannot be given. -/
  tlsCaFile : Option String
  branch : Option String
  poolMaxSize : Nat
  deriving DecidableEq, Repr

/-- One setting of a configuration. -/
inductive Setting
  | dsn (text : Option String)
  | host (text : String)
  | user (text : String)
  | password (text : String)
  | databaseName (text : Option String)
  | port (n : Nat)
  | parseTime (on : Bool)
  | multiStatement (on : Bool)
  | tls (on : Bool)
  | tlsCaFile (path : Option String)
  | branch (text : Option String)
  | poolMaxSize (n : Nat)
  deriving DecidableEq, Repr

namespace Config

def largestPort : Nat := 65535

def largestPool : Nat := Nat.pow 2 32 - 1

/-- The numbers have as many bits as there are for them. -/
structure InRange (config : Config) : Prop where
  port : config.port ≤ largestPort
  poolMaxSize : config.poolMaxSize ≤ largestPool

def standard : Config :=
  { dsn := none, host := "", user := "", password := "", databaseName := none, port := 0,
    parseTime := false, multiStatement := false, tls := false, tlsCaFile := none,
    branch := none, poolMaxSize := 10 }

def forServer (host user : String) (port : Nat) : Config :=
  { standard with host, user, port }

def set (config : Config) : Setting -> Config
  | .dsn text => { config with dsn := text }
  | .host text => { config with host := text }
  | .user text => { config with user := text }
  | .password text => { config with password := text }
  | .databaseName text => { config with databaseName := text }
  | .port n => { config with port := n }
  | .parseTime on => { config with parseTime := on }
  | .multiStatement on => { config with multiStatement := on }
  | .tls on => { config with tls := on }
  | .tlsCaFile path => { config with tlsCaFile := path }
  | .branch text => { config with branch := text }
  | .poolMaxSize n => { config with poolMaxSize := n }

def setAll (config : Config) (settings : List Setting) : Config :=
  settings.foldl set config

/-- Trust an authority: this turns encryption on as well. -/
def trust (config : Config) (path : String) : Config :=
  config.setAll [.tls true, .tlsCaFile (some path)]

/-- A text that is not blank. -/
def given (text : Option String) : Option String :=
  text.filter (fun s => !Text.blank s)

def dsnOverride (config : Config) : Option String := given config.dsn

def database (config : Config) : Option String := given config.databaseName

/-- The branch on which pooled sessions are held, if one is given. -/
def pinnedBranch (config : Config) : Option String := given config.branch

/-- The database and the branch on which pooled sessions are held. -/
def pinnedScope (config : Config) : Scope :=
  ⟨config.database, config.pinnedBranch⟩

/-- Can a connection be described?  A connection text settles it; without one
the host, the user and the port must be given, and the first that is missing is
the fault. -/
def validate (config : Config) : Except Error Unit :=
  if config.dsnOverride.isSome then .ok ()
  else if Text.blank config.host then .error .noHost
  else if Text.blank config.user then .error .noUser
  else if config.port = 0 then .error .noPort
  else .ok ()

/-! ## Connection texts -/

/-- The options that are turned on. -/
def enabledOptions (config : Config) : List String :=
  (if config.parseTime then ["parseTime=true"] else []) ++
    (if config.multiStatement then ["multiStatements=true"] else []) ++
    (if config.tls then ["tls=true"] else [])

/-- The connection text that the separate settings make, with a given text in
the place of the password. -/
def composed (config : Config) (password : String) : String :=
  let options := config.enabledOptions
  config.user ++ ":" ++ password ++ "@" ++ config.host ++ ":" ++ countText config.port ++
    "/" ++ config.database.getD "" ++
    (if options.isEmpty then "" else "?" ++ String.intercalate "&" options)

def connectionText (config : Config) : String :=
  config.dsnOverride.getD (config.composed config.password)

/-- What follows the last sign that ends the credentials, if there is one. -/
def afterLastAt (cs : List Char) : Option (List Char) :=
  if cs.contains '@' then some (cs.reverse.takeWhile (fun c => c ≠ '@')).reverse else none

/-- The connection text without credentials.  Of a text that is given as it
stands only what follows its last `@` is shown. -/
def redactedText (config : Config) : String :=
  match config.dsnOverride with
  | none => config.composed "***"
  | some dsn =>
    match afterLastAt dsn.toList with
    | some rest => "***@" ++ String.ofList rest
    | none => "***"

end Config
end ScopedSql
