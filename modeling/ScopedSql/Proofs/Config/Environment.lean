import ScopedSql.Config.Environment
import ScopedSql.Proofs.Text.Padding

namespace ScopedSql

/-!
# What an environment spells out

An environment spells a configuration by one variable for each setting, and the
same configuration may be spelled in many ways: flags by several words, numbers
by several numerals, both with white space around them, and what is standard by
no variable at all.  Reading gives a configuration exactly if the environment
spells it and its numbers are in range.  So a blank variable is as good as none,
the password excepted, and a number out of range is an error.
-/

namespace Config

open Text (Padded Solid)

namespace Environment

variable {environment : Environment} {key : String}

/-! ## Variables -/

/-- The variable is not set, or it is blank. -/
def Unset (environment : Environment) (key : String) : Prop :=
  forall value, environment.lookup key = some value -> Text.blank value = true

/-- An optional text: a variable that is not blank, or one that is unset. -/
inductive SpellsText (environment : Environment) (key : String) : Option String -> Prop
  | unset (unset : environment.Unset key) : SpellsText environment key none
  | set {text : String} (set : environment.lookup key = some text)
      (ink : Text.blank text = false) : SpellsText environment key (some text)

/-- A text that may be empty: a variable that is not blank, or for no text one that is unset. -/
inductive SpellsName (environment : Environment) (key : String) : String -> Prop
  | unset (unset : environment.Unset key) : SpellsName environment key ""
  | set {text : String} (set : environment.lookup key = some text)
      (ink : Text.blank text = false) : SpellsName environment key text

/-- A flag: one of the words in any case, or an unset variable for the standard. -/
inductive SpellsFlag (environment : Environment) (key : String) : Bool -> Prop
  | unset (unset : environment.Unset key) : SpellsFlag environment key false
  | word {value : String} {word : List Char} {on : Bool} (set : environment.lookup key = some value)
      (padded : Padded word value)
      (accepted : Text.lower (String.ofList word) ∈ if on then trueWords else falseWords) :
      SpellsFlag environment key on

/-- A number: an unsigned numeral, or an unset variable for the standard. -/
inductive SpellsNumber (environment : Environment) (key : String) (standard : Nat) : Nat -> Prop
  | unset (unset : environment.Unset key) : SpellsNumber environment key standard standard
  | numeral {value : String} {cs : List Char} {n : Nat} (set : environment.lookup key = some value)
      (padded : Padded cs value) (numeral : Decimal.Unsigned n cs) :
      SpellsNumber environment key standard n

namespace Unset

theorem of_absent (absent : environment.lookup key = none) : environment.Unset key := by
  intro value set
  rw [absent] at set
  cases set

theorem of_blank {value : String} (set : environment.lookup key = some value)
    (white : Text.blank value = true) : environment.Unset key := by
  intro other otherSet
  rw [set] at otherSet
  cases otherSet
  exact white

theorem not_ink (unset : environment.Unset key) {value : String}
    (set : environment.lookup key = some value) : Text.blank value ≠ false := by
  rw [unset value set]
  exact Bool.noConfusion

theorem not_padded (unset : environment.Unset key) {value : String} {core : List Char}
    (set : environment.lookup key = some value) (padded : Padded core value) : ¬ Solid core :=
  fun solid => unset.not_ink set (padded.not_blank solid)

theorem value?_eq (unset : environment.Unset key) : environment.value? key = none := by
  rw [value?, given, Option.filter_eq_none_iff]
  intro value set
  rw [unset value set]
  exact Bool.false_ne_true

end Unset

theorem value?_of_ink {value : String} (set : environment.lookup key = some value)
    (ink : Text.blank value = false) : environment.value? key = some value := by
  rw [value?, given, Option.filter_eq_some_iff, Bool.not_eq_true']
  exact ⟨set, ink⟩

theorem unset_or_ink (environment : Environment) (key : String) : environment.Unset key ∨
    exists value, environment.lookup key = some value ∧ Text.blank value = false := by
  cases set : environment.lookup key with
  | none => exact .inl (.of_absent set)
  | some value =>
      cases ink : Text.blank value with
      | false => exact .inr ⟨value, rfl, ink⟩
      | true => exact .inl (.of_blank set ink)

theorem value?_eq_iff {text : Option String} :
    environment.value? key = text ↔ environment.SpellsText key text := by
  constructor
  · rintro rfl
    rcases environment.unset_or_ink key with unset | ⟨value, set, ink⟩
    · rw [unset.value?_eq]
      exact .unset unset
    · rw [value?_of_ink set ink]
      exact .set set ink
  · intro spelled
    cases spelled with
    | unset unset => exact unset.value?_eq
    | set set ink => exact value?_of_ink set ink

theorem value?_getD_eq_iff {text : String} :
    (environment.value? key).getD "" = text ↔ environment.SpellsName key text := by
  constructor
  · rintro rfl
    rcases environment.unset_or_ink key with unset | ⟨value, set, ink⟩
    · rw [unset.value?_eq]
      exact .unset unset
    · rw [value?_of_ink set ink]
      exact .set set ink
  · intro spelled
    cases spelled with
    | unset unset => rw [unset.value?_eq, Option.getD_none]
    | set set ink => rw [value?_of_ink set ink, Option.getD_some]

/-! ## Flags and numbers -/

theorem solid_of_accepted {word : List Char} {on : Bool}
    (accepted : Text.lower (String.ofList word) ∈ if on then trueWords else falseWords) :
    Solid word := by
  apply Text.solid_of_lower
  have known : Text.lower (String.ofList word) ∈ trueWords ++ falseWords := by
    cases on with
    | true => exact List.mem_append_left _ accepted
    | false => exact List.mem_append_right _ accepted
  simp only [trueWords, falseWords, List.cons_append, List.nil_append, List.mem_cons,
    List.not_mem_nil, or_false] at known
  rcases known with same | same | same | same | same | same | same | same <;>
    (rw [same]; exact Text.solid_of_all (by decide) (by decide))

/-- A flag is read exactly as it is spelled. -/
theorem flag_eq_ok_iff {on : Bool} :
    environment.flag key = .ok on ↔ environment.SpellsFlag key on := by
  unfold flag
  constructor
  · intro read
    rcases environment.unset_or_ink key with unset | ⟨value, set, ink⟩
    · rw [unset.value?_eq] at read
      cases read
      exact .unset unset
    · simp only [value?_of_ink set ink, List.contains_iff_mem] at read
      split at read
      · cases read
        exact .word set (Text.padded_trimmed value) ‹_›
      split at read
      · cases read
        exact .word set (Text.padded_trimmed value) ‹_›
      · cases read
  · intro spelled
    cases spelled with
    | unset unset => rw [unset.value?_eq]
    | word set padded accepted =>
        have solid := solid_of_accepted accepted
        simp only [value?_of_ink set (padded.not_blank solid), List.contains_iff_mem, Text.trim,
          padded.trimmed_eq solid]
        cases on with
        | true => exact if_pos accepted
        | false =>
            have apart : forall text, text ∈ falseWords -> text ∉ trueWords := by decide
            rw [if_neg (apart _ accepted)]
            exact if_pos accepted

/-- A number is read exactly as it is spelled, if it is in range. -/
theorem number_eq_ok_iff {largest standard n : Nat} (inRange : standard ≤ largest) :
    environment.number key largest standard = .ok n ↔
      environment.SpellsNumber key standard n ∧ n ≤ largest := by
  unfold number
  constructor
  · intro read
    rcases environment.unset_or_ink key with unset | ⟨value, set, ink⟩
    · rw [unset.value?_eq] at read
      cases read
      exact ⟨.unset unset, inRange⟩
    · simp only [value?_of_ink set ink] at read
      split at read
      · rename_i m number
        cases read
        rcases Decimal.readNat_eq_ok_iff.mp number with ⟨numeral, small⟩
        exact ⟨.numeral set (Text.padded_trimmed value) numeral, small⟩
      · cases read
  · rintro ⟨spelled, small⟩
    cases spelled with
    | unset unset => rw [unset.value?_eq]
    | numeral set padded numeral =>
        have solid := (Decimal.Numeral.unsigned numeral).solid
        simp only [value?_of_ink set (padded.not_blank solid), padded.trimmed_eq solid,
          Decimal.readNat_eq_ok_iff.mpr ⟨numeral, small⟩]

/-! ## Configurations -/

/-- Every setting is spelled by its variable.  The password is taken as it is. -/
structure Spells (environment : Environment) (config : Config) : Prop where
  dsn : environment.SpellsText "DOLT_DSN" config.dsn
  host : environment.SpellsName "DOLT_HOST" config.host
  user : environment.SpellsName "DOLT_USER" config.user
  password : (environment.lookup "DOLT_PASSWORD").getD "" = config.password
  databaseName : environment.SpellsText "DOLT_DATABASE" config.databaseName
  port : environment.SpellsNumber "DOLT_PORT" 0 config.port
  parseTime : environment.SpellsFlag "DOLT_PARSE_TIME" config.parseTime
  multiStatement : environment.SpellsFlag "DOLT_MULTI_STATEMENT" config.multiStatement
  tls : environment.SpellsFlag "DOLT_TLS" config.tls
  tlsCaFile : environment.SpellsText "DOLT_TLS_CA_FILE" config.tlsCaFile
  branch : environment.SpellsText "DOLT_BRANCH" config.branch
  poolMaxSize : environment.SpellsNumber "DOLT_POOL_MAX_SIZE" 10 config.poolMaxSize

/-- Reading finds the configuration that is spelled, and no other. -/
theorem ofEnvironment_eq_ok_iff {config : Config} :
    ofEnvironment environment = .ok config ↔ environment.Spells config ∧ config.InRange := by
  have portRange : standard.port ≤ largestPort := Nat.zero_le _
  have poolRange : standard.poolMaxSize ≤ largestPool := by decide
  simp only [ofEnvironment, bind_eq_ok, pure_eq_ok, flag_eq_ok_iff, number_eq_ok_iff portRange,
    number_eq_ok_iff poolRange]
  constructor
  · rintro ⟨parseTime, parseTimeSpelled, multiStatement, multiStatementSpelled, tls, tlsSpelled,
      port, ⟨portSpelled, portSmall⟩, poolMaxSize, ⟨poolSpelled, poolSmall⟩, rfl⟩
    refine ⟨?_, portSmall, poolSmall⟩
    exact
      { dsn := value?_eq_iff.mp rfl
        host := value?_getD_eq_iff.mp rfl
        user := value?_getD_eq_iff.mp rfl
        password := rfl
        databaseName := value?_eq_iff.mp rfl
        port := portSpelled
        parseTime := parseTimeSpelled
        multiStatement := multiStatementSpelled
        tls := tlsSpelled
        tlsCaFile := value?_eq_iff.mp rfl
        branch := value?_eq_iff.mp rfl
        poolMaxSize := poolSpelled }
  · rintro ⟨spells, small⟩
    refine ⟨_, spells.parseTime, _, spells.multiStatement, _, spells.tls, _,
      ⟨spells.port, small.port⟩, _, ⟨spells.poolMaxSize, small.poolMaxSize⟩, ?_⟩
    have host := value?_getD_eq_iff.mpr spells.host
    have user := value?_getD_eq_iff.mpr spells.user
    simp only [value?_eq_iff.mpr spells.dsn, value?_eq_iff.mpr spells.databaseName,
      value?_eq_iff.mpr spells.tlsCaFile, value?_eq_iff.mpr spells.branch, standard, host, user,
      spells.password]

/-! ## Faults -/

theorem flag_eq_error {e : Error} (failed : environment.flag key = .error e) :
    exists word, e = .config (.flag key word) := by
  unfold flag at failed
  split at failed
  · cases failed
  simp only at failed
  split at failed
  · cases failed
  split at failed
  · cases failed
  · cases failed
    exact ⟨_, rfl⟩

theorem number_eq_error {largest standard : Nat} {e : Error}
    (failed : environment.number key largest standard = .error e) :
    exists value cause, e = .config (.number key value cause) := by
  unfold number at failed
  split at failed
  · cases failed
  split at failed
  · cases failed
  · cases failed
    exact ⟨_, _, rfl⟩

/-- Whatever goes wrong, a variable is to blame. -/
theorem ofEnvironment_eq_error {e : Error} (failed : ofEnvironment environment = .error e) :
    exists fault, e = .config fault := by
  have flag {key : String} (wrong : environment.flag key = .error e) :
      exists fault, e = .config fault := by
    rcases flag_eq_error wrong with ⟨word, rfl⟩
    exact ⟨_, rfl⟩
  have number {key : String} {largest standard : Nat}
      (wrong : environment.number key largest standard = .error e) :
      exists fault, e = .config fault := by
    rcases number_eq_error wrong with ⟨value, cause, rfl⟩
    exact ⟨_, rfl⟩
  simp only [ofEnvironment, bind_eq_error] at failed
  rcases failed with wrong | ⟨_, _, wrong | ⟨_, _, wrong | ⟨_, _, wrong | ⟨_, _, wrong | ⟨_, _,
    impossible⟩⟩⟩⟩⟩
  · exact flag wrong
  · exact flag wrong
  · exact flag wrong
  · exact number wrong
  · exact number wrong
  · cases impossible

/-- The variable holds a numeral, perhaps with white space around it. -/
def Holds (environment : Environment) (key : String) (z : Int) : Prop :=
  exists value cs, environment.lookup key = some value ∧ Padded cs value ∧ Decimal.Numeral z cs

/-- A variable with a numeral spells the number of the numeral and no other. -/
theorem SpellsNumber.eq_of_holds {standard n : Nat} (spelled : environment.SpellsNumber key standard n)
    {z : Int} (holds : environment.Holds key z) : z = n := by
  rcases holds with ⟨value, cs, set, padded, numeral⟩
  cases spelled with
  | unset unset => exact absurd numeral.solid (unset.not_padded set padded)
  | @numeral other ds n otherSet otherPadded unsigned =>
      rw [set] at otherSet
      cases otherSet
      have second := Decimal.Numeral.unsigned unsigned
      have same : cs = ds :=
        (padded.trimmed_eq numeral.solid).symm.trans (otherPadded.trimmed_eq second.solid)
      exact numeral.unique (same ▸ second)

/-! ## Blank variables -/

/-- A variable is taken out of an environment. -/
structure Clears (key : String) (environment cleared : Environment) : Prop where
  gone : cleared.lookup key = none
  others : forall other, other ≠ key -> cleared.lookup other = environment.lookup other

theorem Clears.value?_eq {cleared : Environment} (clears : Clears key environment cleared)
    (unset : environment.Unset key) (other : String) :
    cleared.value? other = environment.value? other := by
  by_cases same : other = key
  · rw [same, unset.value?_eq, (Unset.of_absent clears.gone).value?_eq]
  · rw [value?, value?, clears.others other same]

theorem ofEnvironment_congr {first second : Environment}
    (values : forall key, second.value? key = first.value? key)
    (password : second.lookup "DOLT_PASSWORD" = first.lookup "DOLT_PASSWORD") :
    ofEnvironment second = ofEnvironment first := by
  have flags (key : String) : second.flag key = first.flag key := by
    unfold flag
    rw [values]
  have numbers (key : String) (largest standard : Nat) :
      second.number key largest standard = first.number key largest standard := by
    unfold number
    rw [values]
  simp only [ofEnvironment, flags, numbers, values, password]

end Environment

/-! ## Every configuration has an environment -/

/-- Every text but the password is absent, empty or not blank. -/
structure Presentable (config : Config) : Prop where
  dsn : forall text, config.dsn = some text -> Text.blank text = false
  host : config.host = "" ∨ Text.blank config.host = false
  user : config.user = "" ∨ Text.blank config.user = false
  databaseName : forall text, config.databaseName = some text -> Text.blank text = false
  tlsCaFile : forall text, config.tlsCaFile = some text -> Text.blank text = false
  branch : forall text, config.branch = some text -> Text.blank text = false

def flagText (on : Bool) : String :=
  if on then "true" else "false"

/-- An environment in which every variable is set. -/
def toEnvironment (config : Config) : Environment :=
  [("DOLT_DSN", config.dsn.getD ""), ("DOLT_HOST", config.host), ("DOLT_USER", config.user),
    ("DOLT_PASSWORD", config.password), ("DOLT_DATABASE", config.databaseName.getD ""),
    ("DOLT_PORT", countText config.port), ("DOLT_PARSE_TIME", flagText config.parseTime),
    ("DOLT_MULTI_STATEMENT", flagText config.multiStatement), ("DOLT_TLS", flagText config.tls),
    ("DOLT_TLS_CA_FILE", config.tlsCaFile.getD ""), ("DOLT_BRANCH", config.branch.getD ""),
    ("DOLT_POOL_MAX_SIZE", countText config.poolMaxSize)]

namespace Environment

variable {environment : Environment} {key : String}

theorem spellsText_of_lookup {text : Option String}
    (set : environment.lookup key = some (text.getD ""))
    (ink : forall given, text = some given -> Text.blank given = false) :
    environment.SpellsText key text := by
  cases text with
  | none => exact .unset (.of_blank set rfl)
  | some text => exact .set set (ink text rfl)

theorem spellsName_of_lookup {text : String} (set : environment.lookup key = some text)
    (ink : text = "" ∨ Text.blank text = false) : environment.SpellsName key text := by
  rcases ink with rfl | ink
  · exact .unset (.of_blank set rfl)
  · exact .set set ink

theorem spellsFlag_of_lookup {on : Bool} (set : environment.lookup key = some (flagText on)) :
    environment.SpellsFlag key on := by
  refine .word set (Text.padded_self _) ?_
  cases on <;> decide

theorem spellsNumber_of_lookup {n standard : Nat}
    (set : environment.lookup key = some (countText n)) :
    environment.SpellsNumber key standard n := by
  have padded := Text.padded_self (countText n)
  rw [countText, String.toList_ofList] at padded
  exact .numeral set padded (.bare (Decimal.figures_digits n))

end Environment

theorem spells_toEnvironment {config : Config} (presentable : config.Presentable) :
    config.toEnvironment.Spells config where
  dsn := Environment.spellsText_of_lookup rfl presentable.dsn
  host := Environment.spellsName_of_lookup rfl presentable.host
  user := Environment.spellsName_of_lookup rfl presentable.user
  password := rfl
  databaseName := Environment.spellsText_of_lookup rfl presentable.databaseName
  port := Environment.spellsNumber_of_lookup rfl
  parseTime := Environment.spellsFlag_of_lookup rfl
  multiStatement := Environment.spellsFlag_of_lookup rfl
  tls := Environment.spellsFlag_of_lookup rfl
  tlsCaFile := Environment.spellsText_of_lookup rfl presentable.tlsCaFile
  branch := Environment.spellsText_of_lookup rfl presentable.branch
  poolMaxSize := Environment.spellsNumber_of_lookup rfl

/-! ## The reader -/

/-- There is no configuration to a number out of its range, whatever else the environment holds. -/
theorem fault_of_unreadable {environment : Environment}
    (unreadable : forall config, environment.Spells config -> ¬ config.InRange) :
    exists fault, ofEnvironment environment = .error (.config fault) := by
  cases read : ofEnvironment environment with
  | error e =>
      rcases Environment.ofEnvironment_eq_error read with ⟨fault, rfl⟩
      exact ⟨fault, rfl⟩
  | ok config =>
      rcases Environment.ofEnvironment_eq_ok_iff.mp read with ⟨spells, inRange⟩
      exact absurd inRange (unreadable config spells)

/-- The reader gives a configuration exactly if the environment spells it and its numbers are in
range, and every configuration whose texts are not blank is spelled by some environment.  A blank
variable other than the password is as good as none.  A port or a pool size out of range is a fault,
whatever else the environment holds. -/
theorem environment_read_exactly :
    (forall (environment : Environment) (config : Config),
      ofEnvironment environment = .ok config ↔ environment.Spells config ∧ config.InRange) ∧
      (forall config : Config, config.Presentable ->
        exists environment : Environment, environment.Spells config) ∧
      (forall (key : String) (environment cleared : Environment), key ≠ "DOLT_PASSWORD" ->
        environment.Unset key -> Environment.Clears key environment cleared ->
          ofEnvironment cleared = ofEnvironment environment) ∧
      (forall (environment : Environment) (z : Int), environment.Holds "DOLT_PORT" z ->
        z < 0 ∨ (largestPort : Int) < z ->
          exists fault, ofEnvironment environment = .error (.config fault)) ∧
      (forall (environment : Environment) (z : Int), environment.Holds "DOLT_POOL_MAX_SIZE" z ->
        z < 0 ∨ (largestPool : Int) < z ->
          exists fault, ofEnvironment environment = .error (.config fault)) := by
  refine ⟨fun environment config => Environment.ofEnvironment_eq_ok_iff, ?_, ?_, ?_, ?_⟩
  · intro config presentable
    exact ⟨config.toEnvironment, spells_toEnvironment presentable⟩
  · intro key environment cleared notPassword unset clears
    exact Environment.ofEnvironment_congr (clears.value?_eq unset)
      (clears.others "DOLT_PASSWORD" notPassword.symm)
  · intro environment z holds outside
    apply fault_of_unreadable
    intro config spells inRange
    have same := spells.port.eq_of_holds holds
    have small := inRange.port
    omega
  · intro environment z holds outside
    apply fault_of_unreadable
    intro config spells inRange
    have same := spells.poolMaxSize.eq_of_holds holds
    have small := inRange.poolMaxSize
    omega

/-- Words in mixed case, a numeral with a sign and zeros, white space around both, a blank variable,
and numbers just outside their ranges. -/
theorem environment_read_of_padded_words :
    let environment : Environment :=
      [("DOLT_DSN", " \t"), ("DOLT_HOST", "db"), ("DOLT_USER", "root"), ("DOLT_PASSWORD", " "),
        ("DOLT_PORT", " +03306\n"), ("DOLT_TLS", "\tYeS "), ("DOLT_POOL_MAX_SIZE", "4294967295")]
    let config : Config :=
      { standard with host := "db", user := "root", password := " ", port := 3306, tls := true,
                      poolMaxSize := 4294967295 }
    ofEnvironment environment = .ok config ∧
      (exists other : Environment, other.Spells config) ∧
      ofEnvironment environment.tail = ofEnvironment environment ∧
      (exists fault, ofEnvironment [("DOLT_PORT", "65536")] = .error (.config fault)) ∧
      (exists fault, ofEnvironment [("DOLT_POOL_MAX_SIZE", " -1 ")] = .error (.config fault)) := by
  intro environment config
  rcases environment_read_exactly with ⟨exactly, spelled, cleared, port, pool⟩
  have blankDsn : environment.Unset "DOLT_DSN" := .of_blank rfl (by decide)
  have spells : environment.Spells config :=
    { dsn := .unset blankDsn
      host := .set rfl (by decide)
      user := .set rfl (by decide)
      password := rfl
      databaseName := .unset (.of_absent rfl)
      port := .numeral rfl (Text.padded_trimmed _)
        (.plus (.of_all (by decide) (by decide) (by decide)))
      parseTime := .unset (.of_absent rfl)
      multiStatement := .unset (.of_absent rfl)
      tls := .word rfl (Text.padded_trimmed _) (by decide)
      tlsCaFile := .unset (.of_absent rfl)
      branch := .unset (.of_absent rfl)
      poolMaxSize := .numeral rfl (Text.padded_self _)
        (.bare (.of_all (by decide) (by decide) (by decide))) }
  refine ⟨(exactly environment config).mpr ⟨spells, by decide, by decide⟩, ?_, ?_, ?_, ?_⟩
  · apply spelled config
    exact
      { dsn := fun text set => by cases set
        host := .inr (by decide)
        user := .inr (by decide)
        databaseName := fun text set => by cases set
        tlsCaFile := fun text set => by cases set
        branch := fun text set => by cases set }
  · refine cleared "DOLT_DSN" environment environment.tail (by decide) blankDsn ⟨rfl, ?_⟩
    intro other different
    have apart : (other == "DOLT_DSN") = false := beq_false_of_ne different
    simp only [environment, List.tail_cons, List.lookup_cons, apart]
  · have text : Decimal.Numeral 65536 "65536".toList :=
      .unsigned (.bare (.of_all (by decide) (by decide) (by decide)))
    exact port _ 65536 ⟨_, _, rfl, Text.padded_self _, text⟩ (.inr (by decide))
  · have text : Decimal.Numeral (-1) "-1".toList :=
      .minus (n := 1) (.of_all (by decide) (by decide) (by decide))
    exact pool _ (-1) ⟨_, _, rfl, Text.padded_trimmed " -1 ", text⟩ (.inl (by decide))

end Config

end ScopedSql
