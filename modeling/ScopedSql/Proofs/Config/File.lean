import ScopedSql.Config.File
import ScopedSql.Proofs.Json.ReadBack
import ScopedSql.Proofs.Text.Utf8

namespace ScopedSql
namespace Config

/-!
# Configuration files read back

What is written of a configuration is read back as the same configuration with
an empty password.  Every setting but the password is written, so two texts are
equal exactly if nothing but the passwords differs.
-/

open Json (Takes)

def withoutPassword (config : Config) : Config :=
  { config with password := "" }

/-- The setting of a field that a configuration agrees with. -/
def setting (config : Config) : Field -> Setting
  | .dsn => .dsn config.dsn
  | .host => .host config.host
  | .user => .user config.user
  | .password => .password config.password
  | .databaseName => .databaseName config.databaseName
  | .port => .port config.port
  | .parseTime => .parseTime config.parseTime
  | .multiStatement => .multiStatement config.multiStatement
  | .tls => .tls config.tls
  | .tlsCaFile => .tlsCaFile config.tlsCaFile
  | .branch => .branch config.branch
  | .poolMaxSize => .poolMaxSize config.poolMaxSize

/-! ## Values -/

theorem takes_text (s : String) : Takes readText (Json.print (.text s)) s := by
  intro rest _
  rw [Json.print, Json.printString_append, readText, Json.skipSpace_of_ink rfl]
  simp only [Json.readString_flatMap, Option.map_some, String.ofList_toList]

theorem takes_optional (text : Option String) :
    Takes readOptional (Json.print (optionalText text)) text := by
  intro rest stop
  cases text with
  | none => rfl
  | some s =>
      have read := takes_text s rest stop
      rw [Json.print, Json.printString_append] at read
      rw [optionalText, Option.map_some, Option.getD_some, Json.print, Json.printString_append,
        readOptional, Json.skipSpace_of_ink rfl]
      change Option.map (fun read => (some read.1, read.2)) (readText ('"' :: _)) = _
      rw [read, Option.map_some]

theorem takes_flag (on : Bool) : Takes readFlag (Json.print (.bool on)) on := by
  intro rest _
  cases on <;> rfl

theorem skipSpace_digits (n : Nat) (rest : List Char) :
    Json.skipSpace (Decimal.digits n ++ rest) = Decimal.digits n ++ rest := by
  have figures := Decimal.figures_digits n
  rcases List.exists_cons_of_ne_nil figures.nonempty with ⟨c, ds, written⟩
  have digit : c.isDigit = true := figures.allDigits c (written ▸ List.mem_cons_self)
  have ink : Json.isSpace c = false := by
    cases space : Json.isSpace c with
    | false => rfl
    | true =>
        simp only [Json.isSpace, Bool.or_eq_true, decide_eq_true_eq] at space
        rcases space with ((rfl | rfl) | rfl) | rfl <;> cases digit
  rw [written, List.cons_append, Json.skipSpace_of_ink ink]

theorem takes_count {n largest : Nat} (inRange : n ≤ largest) :
    Takes (readCount largest) (Json.print (count n)) n := by
  intro rest stop
  have written : Json.print (count n) = Decimal.digits n := rfl
  have value : Decimal.ofDigits (Decimal.digits n) = n := (Decimal.figures_digits n).value
  rw [written, readCount, skipSpace_digits, Json.takes_digits n rest stop]
  simp [Json.NumberLexeme.whole?, value, inRange]

theorem takes_asSetting {α : Type} {read : List Char -> Option (α × List Char)} {piece : List Char}
    {x : α} (taken : Takes read piece x) (setting : α -> Setting) :
    Takes (fun cs => asSetting setting (read cs)) piece (setting x) := by
  intro rest stop
  change asSetting setting (read (piece ++ rest)) = _
  rw [taken rest stop, asSetting]

/-! ## Settings -/

section Settings

variable {config : Config} {field : Field} {value : Json}

theorem takes_setting (inRange : config.InRange) (written : config.written? field = some value) :
    Takes (fun cs => readSetting cs field) (Json.print value) (config.setting field) := by
  cases field with
  | dsn =>
      cases written
      exact takes_asSetting (takes_optional _) _
  | host =>
      cases written
      exact takes_asSetting (takes_text _) _
  | user =>
      cases written
      exact takes_asSetting (takes_text _) _
  | password => cases written
  | databaseName =>
      cases written
      exact takes_asSetting (takes_optional _) _
  | port =>
      cases written
      exact takes_asSetting (takes_count inRange.port) _
  | parseTime =>
      cases written
      exact takes_asSetting (takes_flag _) _
  | multiStatement =>
      cases written
      exact takes_asSetting (takes_flag _) _
  | tls =>
      cases written
      exact takes_asSetting (takes_flag _) _
  | tlsCaFile =>
      cases written
      exact takes_asSetting (takes_optional _) _
  | branch =>
      cases written
      exact takes_asSetting (takes_optional _) _
  | poolMaxSize =>
      cases written
      exact takes_asSetting (takes_count inRange.poolMaxSize) _

theorem ofName?_name (field : Field) : Field.ofName? field.name = some field := by
  cases field <;> decide

theorem takes_entry (inRange : config.InRange) (written : config.written? field = some value) :
    Takes readEntry (Json.printField (field.name, value)) (some (field, config.setting field)) := by
  intro rest stop
  have value := takes_setting inRange written rest stop
  rw [Json.printField, List.append_assoc, List.cons_append, readEntry, Json.readName_printString]
  simp only [Option.bind_eq_bind, Option.bind_some, ofName?_name, value, Option.map_some]

end Settings

/-! ## Whole files -/

/-- What is read of the fields that are written. -/
def entries (config : Config) (fields : List Field) : List (Option (Field × Setting)) :=
  fields.filterMap (fun field =>
    (config.written? field).map (fun _ => some (field, config.setting field)))

theorem takes_fields {config : Config} (inRange : config.InRange) (fields : List Field) :
    List.Forall₂ (fun field entry => Takes readEntry (Json.printField field) entry)
      (fields.filterMap (fun field =>
        (config.written? field).map (fun value => (field.name, value))))
      (config.entries fields) := by
  induction fields with
  | nil => exact .nil
  | cons field fields inductionHypothesis =>
      cases written : config.written? field with
      | none => simpa [entries, written] using inductionHypothesis
      | some value =>
          have first := takes_entry inRange written
          simpa [entries, written, first] using inductionHypothesis

/-- The fields that are written. -/
def writtenNames : List Field :=
  [.dsn, .host, .user, .databaseName, .port, .parseTime, .multiStatement, .tls, .tlsCaFile,
    .branch, .poolMaxSize]

theorem entries_all (config : Config) : (config.entries Field.all).filterMap id =
    writtenNames.map (fun field => (field, config.setting field)) :=
  rfl

/-- The settings that are written make up the whole configuration but its password. -/
theorem setAll_written (config : Config) :
    standard.setAll (writtenNames.map config.setting) = config.withoutPassword := by
  simp only [writtenNames, List.map_cons, List.map_nil, setAll, List.foldl_cons, List.foldl_nil,
    setting, set, standard, withoutPassword]

theorem readSettings_written {config : Config} (inRange : config.InRange) :
    readSettings ('\x7b' :: Json.printFields config.writtenFields ++ ['\x7d']) =
      some (writtenNames.map config.setting, []) := by
  have taken : Json.readAll '\x7d' readEntry
      (Json.printFields config.writtenFields ++ ['\x7d']) = some (config.entries Field.all, []) :=
    Json.readAll_printFields (takes_fields inRange Field.all) (List.cons_ne_nil _ _) []
  have brace : Json.isSpace '\x7b' = false := rfl
  have distinct : (((config.entries Field.all).filterMap id).map (fun entry => entry.1)).Nodup := by
    rw [entries_all, List.map_map]
    change (writtenNames.map (fun field => field)).Nodup
    rw [List.map_id']
    decide
  rw [List.cons_append, readSettings, Json.skipSpace_of_ink brace]
  change (Json.readAll '\x7d' readEntry _).bind _ = _
  rw [taken, Option.bind_some]
  exact if_pos distinct

theorem read_write {config : Config} (inRange : config.InRange) :
    read config.write = some config.withoutPassword := by
  rw [read, write, String.toList_ofList, readSettings_written inRange]
  simp only [Json.skipSpace, List.dropWhile_nil, List.isEmpty_nil, if_true, setAll_written]

/-- Only the password is left out of what is written. -/
theorem write_withoutPassword (config : Config) : config.withoutPassword.write = config.write :=
  rfl

/-- The text of a configuration is read back, from a string and from a file, as the same
configuration with an empty password, and tells everything but the password. -/
theorem read_back_without_password (config : Config) (inRange : config.InRange) :
    read config.write = some config.withoutPassword ∧
      (forall path, ofFile path (.bytes (Text.encode config.write)) = .ok config.withoutPassword) ∧
      (read config.write = some config ↔ config.password = "") ∧
      forall other : Config, other.InRange ->
        (other.write = config.write ↔ other.withoutPassword = config.withoutPassword) := by
  refine ⟨read_write inRange, ?_, ?_, ?_⟩
  · intro path
    simp only [ofFile, Text.strict?_encode, read_write inRange]
  · rw [read_write inRange, Option.some.injEq]
    constructor
    · intro same
      rw [← same]
      rfl
    · intro empty
      rw [withoutPassword, ← empty]
  · intro other otherInRange
    constructor
    · intro same
      have back := read_write inRange
      rw [← same, read_write otherInRange] at back
      exact Option.some.inj back
    · intro same
      rw [← other.write_withoutPassword, same, write_withoutPassword]

/-- A configuration with marks, control characters and the greatest numbers. -/
theorem read_back_of_awkward_config :
    let config : Config :=
      { dsn := some "", host := "a\"b\\c\x01\n", user := "\u00fc\u2028", password := "secret",
        databaseName := none, port := 65535, parseTime := true, multiStatement := false, tls := true,
        tlsCaFile := some "/etc/\x1f.pem", branch := none, poolMaxSize := 4294967295 }
    config.InRange ∧ { config with password := "" }.InRange ∧
      read config.write = some { config with password := "" } ∧
      ofFile "config.json" (.bytes (Text.encode config.write)) =
        .ok { config with password := "" } ∧
      read config.write ≠ some config ∧
      { config with password := "" }.write = config.write := by
  intro config
  have inRange : config.InRange := ⟨by decide, by decide⟩
  have emptied : { config with password := "" }.InRange := ⟨by decide, by decide⟩
  have back := read_back_without_password config inRange
  refine ⟨inRange, emptied, back.1, back.2.1 "config.json", ?_, (back.2.2.2 _ emptied).mpr rfl⟩
  intro same
  exact absurd (back.2.2.1.mp same) (by decide)

end Config
end ScopedSql
