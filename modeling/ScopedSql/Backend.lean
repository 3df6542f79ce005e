import ScopedSql.Config.Connect
import ScopedSql.ResultSet.Basic

namespace ScopedSql

/-!
# Servers

Everything that works with sessions is written once, over any kind of server.
A server opens sessions and runs statements on them.  What a session remembers
is a value, handed in and out with every call, so that a session is never in two
hands at once.
-/

/-- Where a session is opened: on the server itself, or over the network. -/
inductive Target
  | direct
  | network (options : Config.ConnectOptions) (parseTime : Bool)
  deriving DecidableEq, Repr

/-- A target and the name under which it may be shown. -/
structure Connector where
  target : Target
  name : String
  deriving DecidableEq, Repr

/-- The connector for a configuration.  Its name holds no credentials. -/
def Connector.ofConfig (config : Config) : Except Error Connector := do
  return ⟨.network (<- config.connectOptions) config.parseTime, config.redactedText⟩

/-- What servers of a kind can do; `κ` is what a session remembers. -/
class Backend (σ : Type) (κ : outParam Type) where
  /-- Open a session. -/
  connect : Target -> σ -> Except Error κ × σ
  /-- How long a statement takes. -/
  delay : String -> σ -> Nat
  /-- Run a statement for the number of rows that it affects. -/
  execute : String -> κ -> σ -> Except Error Nat × κ × σ
  /-- Run a statement for its rows. -/
  query : String -> κ -> σ -> Except Error ResultSet × κ × σ
  /-- See whether the session still answers. -/
  ping : κ -> σ -> Except Error Unit × κ × σ
  /-- End a session. -/
  close : κ -> σ -> σ

end ScopedSql
