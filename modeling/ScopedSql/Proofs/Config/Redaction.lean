import ScopedSql.Backend
import ScopedSql.Proofs.Outcome
import ScopedSql.Proofs.Url.Credentials

namespace ScopedSql
namespace Config

/-!
# Secrets in configurations

What is shown of a configuration holds neither its password nor the credentials
of its connection text.  These end at the last `@` of the authority, and what is
shown of the text begins behind the last `@` of all, which is never before that
one.  So nothing of the credentials shows, whatever path and query follow.
-/

/-! ## What is shown of a text -/

/-- What follows the last `@`, or everything where there is none. -/
def behindLastAt (cs : List Char) : List Char :=
  (afterLastAt cs).getD cs

theorem afterLastAt_eq (cs : List Char) :
    afterLastAt cs = (Text.splitAtLast? '@' cs).map Prod.snd := by
  rw [afterLastAt, Text.splitAtLast?]
  split <;> rfl

theorem afterLastAt_of_last {after : List Char} (last : '@' ∉ after) (before : List Char) :
    afterLastAt (before ++ '@' :: after) = some after := by
  rw [afterLastAt_eq, Text.splitAtLast?_of_last last]
  rfl

theorem behindLastAt_of_none {cs : List Char} (none : '@' ∉ cs) : behindLastAt cs = cs := by
  have absent : cs.contains '@' = false := by simpa using none
  rw [behindLastAt, afterLastAt, if_neg (by rw [absent]; exact Bool.false_ne_true)]
  rfl

/-- However a text goes on behind one `@`, the last one stands before the same rest. -/
theorem cut_behindLastAt (before rest : List Char) :
    exists front, before ++ '@' :: rest = front ++ '@' :: behindLastAt rest ∧
      '@' ∉ behindLastAt rest := by
  by_cases more : '@' ∈ rest
  · rcases Text.exists_last more with ⟨front, back, rfl, last⟩
    have shown : behindLastAt (front ++ '@' :: back) = back := by
      rw [behindLastAt, afterLastAt_of_last last]
      rfl
    rw [shown]
    exact ⟨before ++ '@' :: front, by simp, last⟩
  · rw [behindLastAt_of_none more]
    exact ⟨before, rfl, more⟩

/-- What is shown does not depend on what stands before any `@`. -/
theorem afterLastAt_append (before rest : List Char) :
    afterLastAt (before ++ '@' :: rest) = some (behindLastAt rest) := by
  rcases cut_behindLastAt before rest with ⟨front, same, last⟩
  rw [same, afterLastAt_of_last last]

theorem behindLastAt_suffix (cs : List Char) : behindLastAt cs <:+ cs := by
  by_cases there : '@' ∈ cs
  · rcases Text.exists_last there with ⟨front, back, rfl, last⟩
    rw [behindLastAt, afterLastAt_of_last last]
    exact ⟨front ++ ['@'], by simp⟩
  · exact ⟨[], by rw [behindLastAt_of_none there, List.nil_append]⟩

/-! ## Credentials in connection texts -/

/-- What stands before the credentials of a connection text: nothing, or a scheme. -/
inductive Lead
  | bare
  | scheme (name : List Char)

namespace Lead

def text : Lead -> List Char
  | bare => []
  | scheme name => name ++ "://".toList

/-- Is a text with this lead read as an address of the server? -/
def MeansServer (dsn : String) : Lead -> Prop
  | bare => namesScheme dsn = false
  | scheme name => name = Url.serverScheme

end Lead

/-- A connection text in parts.  Its credentials end at the last `@` before the first slash,
question mark or hash. -/
structure Credentialed (dsn : String) (lead : Lead) (credentials rest : List Char) : Prop where
  written : dsn.toList = lead.text ++ (credentials ++ '@' :: rest)
  clear : forall c, c ∈ credentials -> Url.endsAuthority false c = false
  last : '@' ∉ rest.takeWhile (fun c => !Url.endsAuthority false c)

/-- The address of a connection text, with a scheme in any case. -/
def addressOf (dsn : String) : String :=
  if namesScheme dsn then dsn else "mysql://" ++ dsn

theorem readDsn_eq_ok {dsn : String} {options : ConnectOptions}
    (reads : readDsn dsn = .ok options) :
    exists url, Url.read (addressOf dsn) = some url ∧ ConnectOptions.ofUrl? url = some options := by
  rw [readDsn] at reads
  split at reads
  · rename_i found
    cases reads
    exact Option.bind_eq_some_iff.mp found
  · cases reads

section

variable {dsn : String} {lead : Lead} {credentials rest : List Char}

/-- Of a text with credentials nothing is shown but an end of what follows them, and which end that
is depends on nothing else. -/
theorem Credentialed.redactedText {config : Config}
    (parts : Credentialed dsn lead credentials rest) (given : config.dsnOverride = some dsn) :
    behindLastAt rest <:+ rest ∧
      config.redactedText = "***@" ++ String.ofList (behindLastAt rest) := by
  have cut : afterLastAt dsn.toList = some (behindLastAt rest) := by
    rw [parts.written, ← List.append_assoc, afterLastAt_append]
  refine ⟨behindLastAt_suffix rest, ?_⟩
  rw [Config.redactedText, given]
  simp only [cut]

theorem Credentialed.address (parts : Credentialed dsn lead credentials rest)
    (server : lead.MeansServer dsn) :
    (addressOf dsn).toList = Url.serverLead ++ (credentials ++ '@' :: rest) := by
  cases lead with
  | bare =>
      rw [addressOf, server, if_neg Bool.false_ne_true, String.toList_append, parts.written]
      rfl
  | scheme name =>
      cases server
      have named : namesScheme dsn = true := by
        rw [namesScheme, Text.contains, parts.written]
        rfl
      rw [addressOf, if_pos named, parts.written]
      rfl

end

/-! ## What credentials change in the parameters of a connection -/

namespace ConnectOptions

variable {options others : ConnectOptions}

/-- The two agree in everything but the user and the password. -/
def SameButCredentials (options others : ConnectOptions) : Prop :=
  others = { options with user := others.user, password := others.password }

/-- The same parameters for another user. -/
def loggedInAs (options : ConnectOptions) (user : String) (password : Option String) :
    ConnectOptions :=
  { options with user, password }

theorem withPair_loggedInAs (options : ConnectOptions) (user : String) (password : Option String)
    (pair : String × String) :
    withPair (options.loggedInAs user password) pair =
      (withPair options pair).map (fun after => after.loggedInAs user password) := by
  rw [withPair, withPair]
  split
  · cases SslMode.ofWord? pair.2 <;> rfl
  · split
    · rfl
    · split
      · rfl
      · split
        · split <;> rfl
        · rfl

theorem foldlM_loggedInAs (pairs : List (String × String)) (user : String)
    (password : Option String) (options : ConnectOptions) :
    pairs.foldlM withPair (options.loggedInAs user password) =
      (pairs.foldlM withPair options).map (fun after => after.loggedInAs user password) := by
  induction pairs generalizing options with
  | nil => rfl
  | cons pair pairs inductionHypothesis =>
      rw [List.foldlM_cons, List.foldlM_cons, withPair_loggedInAs]
      cases withPair options pair with
      | none => rfl
      | some after => exact inductionHypothesis after

/-- The parameters that an address gives to whom it does not name. -/
def ofPlace? (url : Url) : Option ConnectOptions := do
  let database <- Percent.decode? (url.path.dropWhile (fun c => c = '/'))
  url.queryPairs.foldlM withPair { standard with
    host := (url.host.map String.ofList).getD standard.host
    port := url.port.getD standard.port
    database := if database.isEmpty then none else some database }

/-- Credentials are put into the parameters and change nothing else. -/
theorem ofUrl?_eq_some {url : Url} (reads : ofUrl? url = some options) :
    exists place user password, ofPlace? url = some place ∧
      options = place.loggedInAs user password := by
  simp only [ofUrl?, Option.bind_eq_bind, Option.bind_eq_some_iff] at reads
  rcases reads with ⟨user, _, password, _, database, decoded, folded⟩
  rw [ofPlace?, decoded]
  have apart := (foldlM_loggedInAs url.queryPairs (if user.isEmpty then standard.user else user)
    password { standard with
      host := (url.host.map String.ofList).getD standard.host
      port := url.port.getD standard.port
      database := if database.isEmpty then none else some database }).symm.trans folded
  rcases Option.map_eq_some_iff.mp apart with ⟨place, found, rfl⟩
  exact ⟨place, _, _, found, rfl⟩

theorem sameButCredentials_of_url {url other : Url} (same : url.SameButCredentials other)
    (reads : ofUrl? url = some options) (otherReads : ofUrl? other = some others) :
    options.SameButCredentials others := by
  rcases ofUrl?_eq_some reads with ⟨place, user, password, found, rfl⟩
  rcases ofUrl?_eq_some otherReads with ⟨otherPlace, otherUser, otherPassword, otherFound, rfl⟩
  rw [same] at otherFound
  cases found.symm.trans otherFound
  rfl

end ConnectOptions

section

variable {dsn other : String} {lead otherLead : Lead} {credentials others rest : List Char}

/-- What stands before the `@` is all that user and password are read from: two texts that differ
there and that are both accepted lead to one place. -/
theorem sameButCredentials_of_credentialed {options otherOptions : ConnectOptions}
    (parts : Credentialed dsn lead credentials rest)
    (otherParts : Credentialed other otherLead others rest)
    (server : lead.MeansServer dsn) (otherServer : otherLead.MeansServer other)
    (reads : readDsn dsn = .ok options) (otherReads : readDsn other = .ok otherOptions) :
    options.SameButCredentials otherOptions := by
  rcases readDsn_eq_ok reads with ⟨url, found, made⟩
  rcases readDsn_eq_ok otherReads with ⟨otherUrl, otherFound, otherMade⟩
  have same : url.SameButCredentials otherUrl :=
    Url.sameButCredentials_of_read (parts.address server) (otherParts.address otherServer)
      parts.clear otherParts.clear parts.last found otherFound
  exact ConnectOptions.sameButCredentials_of_url same made otherMade

end

/-! ## Configurations that differ in their secrets -/

variable {first second : Config}

/-- The configurations differ in the password, or they have connection texts that differ in the
credentials, with their schemes written out or not. -/
inductive DifferInSecrets (first second : Config) : Prop
  | password (separate : first.dsnOverride = none)
      (rest : second = { first with password := second.password })
  | credentials {dsn other : String} {lead otherLead : Lead} {credentials others rest : List Char}
      (given : first.dsnOverride = some dsn) (otherGiven : second.dsnOverride = some other)
      (parts : Credentialed dsn lead credentials rest)
      (otherParts : Credentialed other otherLead others rest)

theorem DifferInSecrets.redactedText (differ : DifferInSecrets first second) :
    second.redactedText = first.redactedText := by
  cases differ with
  | password separate rest =>
      have otherSeparate : second.dsnOverride = none := by
        rw [rest]
        exact separate
      rw [Config.redactedText, Config.redactedText, separate, otherSeparate, rest]
      rfl
  | credentials given otherGiven parts otherParts =>
      rw [(parts.redactedText given).2, (otherParts.redactedText otherGiven).2]

/-- A text that shows a configuration with stars for its secrets: for the password, or for all that
stands before the last `@` of the connection text. -/
inductive Masks (config : Config) : String -> Prop
  | password (separate : config.dsnOverride = none) :
      Masks config { config with password := "***" }.connectionText
  | credentials {dsn : String} {before shown : List Char} (given : config.dsnOverride = some dsn)
      (written : dsn.toList = before ++ '@' :: shown) (last : '@' ∉ shown) :
      Masks config ("***@" ++ String.ofList shown)

theorem DifferInSecrets.masks (differ : DifferInSecrets first second) :
    first.Masks first.redactedText := by
  cases differ with
  | password separate rest =>
      have masked : first.redactedText = { first with password := "***" }.connectionText := by
        have alsoSeparate : { first with password := "***" }.dsnOverride = none := separate
        rw [Config.redactedText, connectionText, separate, alsoSeparate]
        rfl
      rw [masked]
      exact .password separate
  | credentials given otherGiven parts otherParts =>
      rw [(parts.redactedText given).2]
      have written := parts.written
      rw [← List.append_assoc] at written
      rcases cut_behindLastAt _ _ with ⟨front, same, last⟩
      exact .credentials given (written.trans same) last

/-- A connector is named after its configuration. -/
theorem name_of_ofConfig {config : Config} {connector : Connector}
    (made : Connector.ofConfig config = .ok connector) : connector.name = config.redactedText := by
  rw [Connector.ofConfig, bind_eq_ok] at made
  rcases made with ⟨options, _, made⟩
  cases made
  rfl

end Config
end ScopedSql
