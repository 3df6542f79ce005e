import ScopedSql.Backend

namespace ScopedSql
namespace Config

/-!
# Configurations with one connection text

A connection text stands for the host, the user, the password, the database and
the port.  Whatever is made of a configuration with such a text for the sake of
a connection does not depend on these settings.  The place of pooled sessions is
no part of this: its branch is a setting of its own, but its database is not.
-/

variable {first second : Config}

/-- A connection text is given, and the second configuration differs from the first at most in the
settings that the text stands for. -/
structure Reworded (first second : Config) : Prop where
  given : first.dsnOverride.isSome
  rest : second = { first with
    host := second.host
    user := second.user
    password := second.password
    databaseName := second.databaseName
    port := second.port }

namespace Reworded

theorem dsnOverride (reworded : Reworded first second) :
    second.dsnOverride = first.dsnOverride := by
  rw [reworded.rest]
  rfl

theorem pinnedBranch (reworded : Reworded first second) :
    second.pinnedBranch = first.pinnedBranch := by
  rw [reworded.rest]
  rfl

theorem requestedSslMode (reworded : Reworded first second) :
    second.requestedSslMode = first.requestedSslMode := by
  rw [reworded.rest]
  rfl

theorem tlsCaFile (reworded : Reworded first second) : second.tlsCaFile = first.tlsCaFile := by
  rw [reworded.rest]

theorem parseTime (reworded : Reworded first second) : second.parseTime = first.parseTime := by
  rw [reworded.rest]

end Reworded

/-- Everything that concerns a connection comes out alike. -/
structure SameConnection (first second : Config) : Prop where
  validate : second.validate = first.validate
  connectionText : second.connectionText = first.connectionText
  redactedText : second.redactedText = first.redactedText
  connectOptions : second.connectOptions = first.connectOptions
  /-- This holds the description as well, which is the name of the connector. -/
  connector : Connector.ofConfig second = Connector.ofConfig first

theorem Reworded.sameConnection (reworded : Reworded first second) :
    SameConnection first second := by
  rcases Option.isSome_iff_exists.mp reworded.given with ⟨dsn, override⟩
  have otherOverride : second.dsnOverride = some dsn := reworded.dsnOverride.trans override
  have valid : first.validate = .ok () := by rw [validate, override]; rfl
  have otherValid : second.validate = .ok () := by rw [validate, otherOverride]; rfl
  have redacted : second.redactedText = first.redactedText := by
    rw [redactedText, redactedText, override, otherOverride]
  have options : second.connectOptions = first.connectOptions := by
    rw [connectOptions, connectOptions, valid, otherValid, override, otherOverride,
      reworded.pinnedBranch, reworded.requestedSslMode, reworded.tlsCaFile]
  exact {
    validate := otherValid.trans valid.symm
    connectionText := by rw [connectionText, connectionText, override, otherOverride]; rfl
    redactedText := redacted
    connectOptions := options
    connector := by
      rw [Connector.ofConfig, Connector.ofConfig, options, redacted, reworded.parseTime] }

end Config
end ScopedSql
