import ScopedSql.Proofs.Format.Looks
import ScopedSql.Proofs.Time.Spelling
import ScopedSql.Wire.Batch

namespace ScopedSql

/-!
# Moments as texts

Dates with times may be kept as texts or read as timestamps.  For whole seconds
nobody who reads a result as text can tell: a timestamp is displayed as it was
spelled, and what names no timestamp stays a text in any case.  Fractions of a
second are left out, since their width may change.
-/

namespace Text

/-! ## ASCII -/

/-- The character of a byte in the ASCII range. -/
def ascii (byte : UInt8) : Char :=
  Char.ofNat byte.toNat

theorem toNat_ascii {byte : UInt8} (plain : byte.toNat < 0x80) :
    (ascii byte).toNat = byte.toNat := by
  have valid : byte.toNat.isValidChar := Or.inl (by omega)
  rw [ascii, Char.ofNat, dif_pos valid]
  rfl

theorem decode_of_ascii {bytes : List UInt8}
    (plain : forall byte, byte ∈ bytes -> byte.toNat < 0x80) :
    decode bytes = bytes.map (fun byte => some (ascii byte)) := by
  induction bytes with
  | nil => rfl
  | cons byte bytes inductionHypothesis =>
      have single := plain byte List.mem_cons_self
      have others := inductionHypothesis fun other member =>
        plain other (List.mem_cons_of_mem _ member)
      rw [decode] at others ⊢
      rw [decodeFrom, if_neg fun both => absurd rfl both.1, if_pos rfl, List.nil_append,
        leadByte?, if_pos single, List.map_cons, ← others]
      rfl

theorem lossy_of_ascii {bytes : List UInt8}
    (plain : forall byte, byte ∈ bytes -> byte.toNat < 0x80) :
    lossy bytes = String.ofList (bytes.map ascii) := by
  rw [lossy, decode_of_ascii plain, List.map_map]
  rfl

end Text

namespace Wire

open Text

/-! ## Cells -/

/-- A number of bytes that are decimal digits. -/
structure Digits (count : Nat) (bytes : List UInt8) : Prop where
  length : bytes.length = count
  digits : forall byte, byte ∈ bytes -> 0x30 ≤ byte.toNat ∧ byte.toNat ≤ 0x39

/-- Bytes of the shape `dddd-dd-dd dd:dd:dd`, with any digits. -/
inductive WholeSecond : List UInt8 -> Prop
  | shape {year month day hour minute second : List UInt8} (years : Digits 4 year)
      (months : Digits 2 month) (days : Digits 2 day) (hours : Digits 2 hour)
      (minutes : Digits 2 minute) (seconds : Digits 2 second) :
      WholeSecond (year ++ 0x2D :: (month ++ 0x2D :: (day ++ 0x20 :: (hour ++ 0x3A ::
        (minute ++ 0x3A :: second)))))

theorem Digits.plain {count : Nat} {bytes : List UInt8} (digits : Digits count bytes) :
    forall byte, byte ∈ bytes -> byte.toNat < 0x80 := by
  intro byte member
  have bounds := digits.digits byte member
  omega

theorem Digits.spells {count : Nat} {bytes : List UInt8} (digits : Digits count bytes) :
    Decimal.Spells count (Decimal.ofDigits (bytes.map ascii)) (bytes.map ascii) where
  length := by rw [List.length_map, digits.length]
  allDigits := by
    intro c member
    rcases List.mem_map.mp member with ⟨byte, inside, rfl⟩
    rw [Decimal.isDigit_iff, toNat_ascii (digits.plain byte inside)]
    exact digits.digits byte inside
  value := rfl

namespace WholeSecond

variable {bytes : List UInt8}

theorem plain (whole : WholeSecond bytes) : forall byte, byte ∈ bytes -> byte.toNat < 0x80 := by
  rcases whole with ⟨years, months, days, hours, minutes, seconds⟩
  intro byte member
  simp only [List.mem_append, List.mem_cons] at member
  rcases member with year | rfl | month | rfl | day | rfl | hour | rfl | minute | rfl | second
  · exact years.plain byte year
  · decide
  · exact months.plain byte month
  · decide
  · exact days.plain byte day
  · decide
  · exact hours.plain byte hour
  · decide
  · exact minutes.plain byte minute
  · decide
  · exact seconds.plain byte second

/-- A whole second spells a timestamp, which is printed as it was spelled. -/
theorem spelled (whole : WholeSecond bytes) :
    exists (s : Time.Spelling) (t : Time.Timestamp),
      s.Of t ∧ s.text = bytes.map ascii ∧ t.print = s.text := by
  rcases whole with ⟨years, months, days, hours, minutes, seconds⟩
  have spelled : Time.Spelling.Of ⟨_, _, _, _, _, _, _⟩ ⟨_, _, _, _, _, _, _⟩ :=
    { year := Time.readYear_of_spells years.spells
      month := months.spells
      day := days.spells
      hour := hours.spells
      minute := minutes.spells
      second := seconds.spells
      fraction := (rfl : Time.readFraction [] = some (0, [])) }
  refine ⟨_, _, spelled, ?_, spelled.print_eq years.spells rfl⟩
  simp only [Time.Spelling.text, Time.Spelling.date, Time.Spelling.time, List.append_nil,
    List.map_append, List.map_cons]
  rfl

/-- Whether it names a timestamp or not, a whole second is displayed as it was written. -/
theorem display_readMoment (whole : WholeSecond bytes) :
    (readMoment (lossy bytes)).display = lossy bytes := by
  rcases whole.spelled with ⟨s, t, spelled, text, printed⟩
  have shown : lossy bytes = String.ofList s.text := by rw [lossy_of_ascii whole.plain, text]
  rw [readMoment, shown, spelled.read_eq]
  split
  · rw [Option.map_some, Option.getD_some, Value.display, Time.Timestamp.text, printed]
  · rfl

end WholeSecond

theorem Reading.base_of_moment {base : String} (moment : Reading.ofBase base = .moment) :
    base ∈ ["DATETIME", "TIMESTAMP"] := by
  unfold Reading.ofBase at moment
  split at moment
  · cases moment
  split at moment
  · cases moment
  split at moment
  · cases moment
  split at moment
  · exact List.contains_iff_mem.mp ‹_›
  split at moment
  · cases moment
  split at moment
  · cases moment
  split at moment
  · cases moment
  · cases moment

/-! ## Results -/

/-- Every date with a time in a row is a whole second or NULL. -/
def Line.InWholeSeconds (line : Line) : Prop :=
  forall column bytes, (column, some bytes) ∈ line.columns.zip line.cells ->
    baseName (Text.upper column.typeName) ∈ ["DATETIME", "TIMESTAMP"] -> WholeSecond bytes

theorem display_decode {typeName : String} {bytes : List UInt8}
    (whole : baseName typeName ∈ ["DATETIME", "TIMESTAMP"] -> WholeSecond bytes) :
    (decode typeName true bytes).display = (decode typeName false bytes).display := by
  unfold decode
  split
  all_goals try rfl
  rename_i moment
  rw [if_pos rfl, if_neg Bool.false_ne_true,
    (whole (Reading.base_of_moment moment)).display_readMoment]
  rfl

theorem Line.values_eq (line : Line) (parseTime : Bool) :
    line.values parseTime = (line.columns.zip line.cells).map
      (fun cell => decodeCell cell.1.typeName parseTime cell.2) := by
  rw [List.map_zip_eq_zipWith]
  rfl

theorem Line.InWholeSeconds.display_values {line : Line} (whole : line.InWholeSeconds) :
    (line.values true).map Value.display = (line.values false).map Value.display := by
  rw [values_eq, values_eq, List.map_map, List.map_map]
  apply List.map_congr_left
  rintro ⟨column, cell⟩ member
  cases cell with
  | none => rfl
  | some bytes =>
      simp only [Function.comp, decodeCell]
      exact display_decode (whole column bytes member)

theorem looks_addLine {set other : ResultSet} (same : set.looks = other.looks) {line : Line}
    (whole : line.InWholeSeconds) :
    (addLine true set line).map ResultSet.looks = (addLine false other line).map ResultSet.looks := by
  have columns : set.columns = other.columns := congrArg Prod.fst same
  rw [addLine, addLine, columns]
  split
  · exact ResultSet.looks_addValues same whole.display_values
  · rfl

theorem looks_addLines {lines : List Line}
    (whole : forall line, line ∈ lines -> line.InWholeSeconds) {set other : ResultSet}
    (same : set.looks = other.looks) :
    (lines.foldlM (addLine true) set).map ResultSet.looks =
      (lines.foldlM (addLine false) other).map ResultSet.looks := by
  induction lines generalizing set other with
  | nil => exact congrArg Except.ok same
  | cons line lines inductionHypothesis =>
      rw [List.foldlM_cons, List.foldlM_cons, map_bind, map_bind]
      apply bind_eq_of_map_eq (looks_addLine same (whole line List.mem_cons_self))
      intro set other same
      exact inductionHypothesis (fun line member => whole line (List.mem_cons_of_mem _ member))
        same

/-- A result in whole seconds has the same text, or fails with the same error, whether its dates
with times are read as timestamps or not. -/
theorem text_of_whole_seconds (fallback : List String) (lines : List Line)
    (whole : forall line, line ∈ lines -> line.InWholeSeconds) (format : Format) :
    (collect true fallback lines).bind (fun set => set.render format) =
      (collect false fallback lines).bind (fun set => set.render format) := by
  have same : (ResultSet.new (header fallback lines)).looks =
      (ResultSet.new (header fallback lines)).looks := rfl
  apply bind_eq_of_map_eq (looks_addLines whole same)
  intro set other same
  exact ResultSet.render_congr same format

/-- A leap second and a day that there is not, and the first of them in a row with NULL. -/
theorem text_of_whole_seconds_of_leap_second :
    let leap : List UInt8 := [50, 48, 49, 54] ++ 0x2D :: ([49, 50] ++ 0x2D :: ([51, 49] ++
      0x20 :: ([50, 51] ++ 0x3A :: ([53, 57] ++ 0x3A :: [54, 48]))))
    let zero : List UInt8 := [48, 48, 48, 48] ++ 0x2D :: ([48, 48] ++ 0x2D :: ([48, 48] ++
      0x20 :: ([48, 48] ++ 0x3A :: ([48, 48] ++ 0x3A :: [48, 48]))))
    let columns : List Column := [⟨"from", "DATETIME"⟩, ⟨"to", "timestamp(6)"⟩]
    let lines : List Line := [⟨columns, [some leap, some zero]⟩, ⟨columns, [some leap, none]⟩]
    (forall line, line ∈ lines -> line.InWholeSeconds) ∧
      (readMoment (lossy leap)).timestamp? = some ⟨2016, 12, 31, 23, 59, 60, 0⟩ ∧
      (collect true [] lines).bind (fun set => set.render .csv) =
        (collect false [] lines).bind (fun set => set.render .csv) := by
  intro leap zero columns lines
  have leapWhole : WholeSecond leap :=
    .shape ⟨rfl, by simp⟩ ⟨rfl, by simp⟩ ⟨rfl, by simp⟩ ⟨rfl, by simp⟩ ⟨rfl, by simp⟩
      ⟨rfl, by simp⟩
  have zeroWhole : WholeSecond zero :=
    .shape ⟨rfl, by simp⟩ ⟨rfl, by simp⟩ ⟨rfl, by simp⟩ ⟨rfl, by simp⟩ ⟨rfl, by simp⟩
      ⟨rfl, by simp⟩
  have whole : forall line, line ∈ lines -> line.InWholeSeconds := by
    intro line member column bytes inside _
    simp only [lines, columns, List.mem_cons, List.not_mem_nil, or_false] at member
    rcases member with rfl | rfl
    · simp only [List.zip_cons_cons, List.zip_nil_right, List.mem_cons, List.not_mem_nil, or_false,
        Prod.mk.injEq, Option.some.injEq] at inside
      rcases inside with ⟨_, rfl⟩ | ⟨_, rfl⟩
      · exact leapWhole
      · exact zeroWhole
    · simp only [List.zip_cons_cons, List.zip_nil_right, List.mem_cons, List.not_mem_nil, or_false,
        Prod.mk.injEq, Option.some.injEq, reduceCtorEq, and_false] at inside
      rcases inside with ⟨_, rfl⟩
      exact leapWhole
  exact ⟨whole, by decide +kernel, text_of_whole_seconds [] lines whole .csv⟩

end Wire
end ScopedSql
