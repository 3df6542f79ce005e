import ScopedSql.Proofs.Decimal.Digits
import ScopedSql.Value

namespace ScopedSql
namespace Time

/-!
# Timestamps spelled in full

A text that spells every part of a timestamp in its full width is read as exactly
this timestamp, if it names a day of the calendar and a time of that day.  The
printer writes such texts only.
-/

/-! ## Parts -/

section Parts

variable {width most n low high : Nat} {ds rest : List Char}

/-- A number is read up to its width, or up to a character that is no digit. -/
theorem readDigits_of_spells (spells : Decimal.Spells width n ds) (wide : 0 < width)
    (enough : width ≤ most)
    (ends : width = most ∨ forall c, rest.head? = some c -> c.isDigit = false) :
    readDigits most (ds ++ rest) = some (n, rest) := by
  have stops : (rest.take (most - ds.length)).takeWhile Char.isDigit = [] := by
    rcases ends with same | other
    · rw [spells.length, same, Nat.sub_self, List.take_zero, List.takeWhile_nil]
    · cases rest with
      | nil => rw [List.take_nil, List.takeWhile_nil]
      | cons c rest =>
          cases most - ds.length with
          | zero => rw [List.take_zero, List.takeWhile_nil]
          | succ more =>
              rw [List.take_succ_cons, List.takeWhile_cons_of_neg]
              rw [other c rfl]
              exact Bool.false_ne_true
  have taken : ((ds ++ rest).take most).takeWhile Char.isDigit = ds := by
    rw [List.take_append, List.take_of_length_le (spells.length ▸ enough),
      List.takeWhile_append_of_pos spells.allDigits, stops, List.append_nil]
  have filled : ¬ ds.isEmpty = true := by
    rw [List.isEmpty_iff]
    exact spells.ne_nil wide
  rw [readDigits, taken, if_neg filled, spells.value, List.drop_left]

/-- There is no white space in front of a digit. -/
theorem dropWhile_isBlank_of_spells (spells : Decimal.Spells width n ds) (wide : 0 < width)
    (rest : List Char) : (ds ++ rest).dropWhile Text.isBlank = ds ++ rest := by
  cases ds with
  | nil => exact absurd rfl (spells.ne_nil wide)
  | cons c ds =>
      have bounds := (Decimal.isDigit_iff c).mp (spells.allDigits c List.mem_cons_self)
      have dark : Text.isBlank c = false := by
        simp only [Text.isBlank, Bool.or_eq_false_iff, Bool.and_eq_false_iff,
          decide_eq_false_iff_not, beq_eq_false_iff_ne]
        omega
      rw [List.cons_append, List.dropWhile_cons_of_neg]
      rw [dark]
      exact Bool.false_ne_true

theorem readPart_of_spells (spells : Decimal.Spells 2 n ds) (low high : Nat)
    (rest : List Char) :
    readPart low high (ds ++ rest) = if low ≤ n ∧ n ≤ high then some (n, rest) else none := by
  rw [readPart, dropWhile_isBlank_of_spells spells Nat.two_pos,
    readDigits_of_spells spells Nat.two_pos (Nat.le_refl 2) (Or.inl rfl)]
  rfl

theorem readPart_space (low high : Nat) (cs : List Char) :
    readPart low high (' ' :: cs) = readPart low high cs := rfl

/-- Four digits are a year without sign. -/
theorem readYear_of_spells (spells : Decimal.Spells 4 n ds) (rest : List Char) :
    readYear (ds ++ '-' :: rest) = some ((n : Int), '-' :: rest) := by
  have first : forall c more, ds ++ '-' :: rest = c :: more -> c.isDigit = true := by
    intro c more split
    rcases ds with _ | ⟨d, ds⟩
    · exact absurd rfl (spells.ne_nil (by decide))
    · cases split
      exact spells.allDigits _ List.mem_cons_self
  rw [readYear, dropWhile_isBlank_of_spells spells (by decide)]
  split
  · exact absurd (first '-' _ ‹_›) (by decide)
  · exact absurd (first '+' _ ‹_›) (by decide)
  · rw [readDigits_of_spells spells (by decide) (Nat.le_refl 4) (Or.inl rfl)]
    rfl

/-- The digits after a sign end only where something else follows. -/
theorem readDigits_of_signed (spells : Decimal.Spells width n ds) (wide : 0 < width)
    (rest : List Char) :
    readDigits (ds ++ '-' :: rest).length (ds ++ '-' :: rest) = some (n, '-' :: rest) := by
  apply readDigits_of_spells spells wide
  · rw [List.length_append, spells.length]
    exact Nat.le_add_right _ _
  · right
    rintro c ⟨⟩
    rfl

theorem readYear_minus (spells : Decimal.Spells width n ds) (wide : 0 < width)
    (rest : List Char) :
    readYear ('-' :: (ds ++ '-' :: rest)) = some (-(n : Int), '-' :: rest) := by
  change (readDigits _ (ds ++ '-' :: rest)).map _ = _
  rw [readDigits_of_signed spells wide]
  rfl

theorem readYear_plus (spells : Decimal.Spells width n ds) (wide : 0 < width)
    (rest : List Char) :
    readYear ('+' :: (ds ++ '-' :: rest)) = some ((n : Int), '-' :: rest) := by
  change (readDigits _ (ds ++ '-' :: rest)).map _ = _
  rw [readDigits_of_signed spells wide]
  rfl

/-- A fraction of up to nine digits counts in the unit of its last digit. -/
theorem readFraction_of_spells (spells : Decimal.Spells width n ds) (wide : 0 < width)
    (narrow : width ≤ 9) : readFraction ('.' :: ds) = some (n * 10 ^ (9 - width), []) := by
  have read : readDigits 9 (ds ++ []) = some (n, []) :=
    readDigits_of_spells spells wide narrow (Or.inr nofun)
  rw [List.append_nil] at read
  rw [readFraction, read]
  change some (n * 10 ^ (9 - (ds.length - 0)), _) = _
  rw [Nat.sub_zero, spells.length]
  rfl

end Parts

/-! ## Whole texts -/

theorem daysInMonth_le (year : Int) (month : Nat) : daysInMonth year month ≤ 31 := by
  rw [daysInMonth]
  split
  · split <;> decide
  · split <;> decide

/-- The characters of each part of a timestamp. -/
structure Spelling where
  year : List Char
  month : List Char
  day : List Char
  hour : List Char
  minute : List Char
  second : List Char
  /-- The fraction of a second, with its point. -/
  fraction : List Char

namespace Spelling

def date (s : Spelling) (rest : List Char) : List Char :=
  s.year ++ '-' :: (s.month ++ '-' :: (s.day ++ rest))

def time (s : Spelling) : List Char :=
  ' ' :: (s.hour ++ ':' :: (s.minute ++ ':' :: (s.second ++ s.fraction)))

def text (s : Spelling) : List Char :=
  s.date s.time

/-- Each part is spelled in full. -/
structure Of (t : Timestamp) (s : Spelling) : Prop where
  year : forall rest, readYear (s.year ++ '-' :: rest) = some (t.year, '-' :: rest)
  month : Decimal.Spells 2 t.month s.month
  day : Decimal.Spells 2 t.day s.day
  hour : Decimal.Spells 2 t.hour s.hour
  minute : Decimal.Spells 2 t.minute s.minute
  second : Decimal.Spells 2 t.second s.second
  fraction : readFraction s.fraction = some (t.nanosecond, [])

namespace Of

variable {t : Timestamp} {s : Spelling}

theorem readDate_eq (spelled : s.Of t) (rest : List Char) :
    readDate (s.date rest) =
      if (1 ≤ t.month ∧ t.month ≤ 12) ∧ 1 ≤ t.day ∧ t.day ≤ 31 then
        some (midnight t.year t.month t.day, rest)
      else none := by
  rw [readDate, date, spelled.year, ite_and]
  change (readPart 1 12 (s.month ++ '-' :: (s.day ++ rest))).bind _ = _
  rw [readPart_of_spells spelled.month]
  split
  · change (readPart 1 31 (s.day ++ rest)).bind _ = _
    rw [readPart_of_spells spelled.day]
    split <;> rfl
  · rfl

theorem readTime_eq (spelled : s.Of t) (start : Timestamp) :
    readTime start s.time =
      if t.hour ≤ 23 ∧ t.minute ≤ 59 ∧ t.second ≤ 60 then
        some ({ start with
          hour := t.hour, minute := t.minute, second := t.second,
          nanosecond := t.nanosecond }, [])
      else none := by
  rw [ite_and, ite_and, readTime, time, readPart_space, readPart_of_spells spelled.hour]
  simp only [Nat.zero_le, true_and]
  split
  · change (readPart 0 59 (s.minute ++ ':' :: (s.second ++ s.fraction))).bind _ = _
    rw [readPart_of_spells spelled.minute]
    simp only [Nat.zero_le, true_and]
    split
    · change (readPart 0 60 (s.second ++ s.fraction)).bind _ = _
      rw [readPart_of_spells spelled.second]
      simp only [Nat.zero_le, true_and]
      split
      · change (readFraction s.fraction).bind _ = _
        rw [spelled.fraction]
        rfl
      · rfl
    · rfl
  · rfl

/-- A spelled timestamp is read if it is one of the calendar and of the clock. -/
theorem readDateTime_eq (spelled : s.Of t) :
    readDateTime s.text = if t.Valid then some t else none := by
  change (readDate (s.date s.time)).bind (fun read => (readTime read.1 read.2).bind
    fun read => if read.2.isEmpty ∧ read.1.Valid then some read.1 else none) = _
  rw [spelled.readDate_eq]
  by_cases valid : t.Valid
  · have short := daysInMonth_le t.year t.month
    rcases valid with ⟨_, _, month, months, day, days, hour, minute, second, _⟩
    rw [if_pos ⟨⟨month, months⟩, day, Nat.le_trans days short⟩, Option.bind_some,
      spelled.readTime_eq,
      if_pos ⟨Nat.le_of_lt_succ hour, Nat.le_of_lt_succ minute, second⟩, Option.bind_some]
    simp only [List.isEmpty_nil, true_and]
    rfl
  · rw [if_neg valid]
    split
    · rw [Option.bind_some, spelled.readTime_eq]
      split
      · rw [Option.bind_some, if_neg]
        rintro ⟨_, valid'⟩
        exact valid valid'
      · rfl
    · rfl

/-- A date with a time is no date alone. -/
theorem readDateOnly_eq (spelled : s.Of t) : readDateOnly s.text = none := by
  change (readDate (s.date s.time)).bind
    (fun read => if read.2.isEmpty ∧ read.1.Valid then some read.1 else none) = none
  rw [spelled.readDate_eq]
  split
  · rw [Option.bind_some, if_neg]
    rintro ⟨empty, _⟩
    exact Bool.false_ne_true empty
  · rfl

theorem read_eq (spelled : s.Of t) :
    Timestamp.read (String.ofList s.text) = if t.Valid then some t else none := by
  rw [Timestamp.read, String.toList_ofList, spelled.readDateTime_eq, spelled.readDateOnly_eq,
    Option.or_none]

end Of

end Spelling

/-! ## What the printer writes -/

theorem readYear_printYear (year : Int) (rest : List Char) :
    readYear (printYear year ++ '-' :: rest) = some (year, '-' :: rest) := by
  have spells (n : Nat) : Decimal.Spells (Decimal.padded 4 n).length n (Decimal.padded 4 n) :=
    ⟨rfl, fun _ member => Decimal.isDigit_of_mem_padded member, Decimal.ofDigits_padded 4 n⟩
  have wide (n : Nat) : 0 < (Decimal.padded 4 n).length :=
    List.length_pos_iff.mpr (Decimal.padded_ne_nil 4 n)
  rw [printYear]
  by_cases plain : 0 ≤ year ∧ year ≤ 9999
  · rw [if_pos plain, readYear_of_spells (Decimal.spells_padded (by decide) (by omega)),
      Int.toNat_of_nonneg plain.1]
  · rw [if_neg plain, List.cons_append]
    by_cases negative : year < 0
    · rw [if_pos negative, readYear_minus (spells _) (wide _)]
      congr 2
      omega
    · rw [if_neg negative, readYear_plus (spells _) (wide _)]
      congr 2
      omega

theorem readFraction_printFraction {nanosecond : Nat} (small : nanosecond < 1000000000) :
    readFraction (printFraction nanosecond) = some (nanosecond, []) := by
  rw [printFraction]
  split
  · subst nanosecond
    rfl
  · split
    · rw [readFraction_of_spells (Decimal.spells_padded (by decide) (by omega)) (by decide)
        (by decide)]
      congr 2
      omega
    · split
      · rw [readFraction_of_spells (Decimal.spells_padded (by decide) (by omega)) (by decide)
          (by decide)]
        congr 2
        omega
      · rw [readFraction_of_spells (Decimal.spells_padded (by decide) small) (by decide)
          (by decide), Nat.sub_self, Nat.pow_zero, Nat.mul_one]

/-- The parts that the printer writes. -/
def Timestamp.spelling (t : Timestamp) : Spelling where
  year := printYear t.year
  month := Decimal.padded 2 t.month
  day := Decimal.padded 2 t.day
  hour := Decimal.padded 2 t.hour
  minute := Decimal.padded 2 t.minute
  second := Decimal.padded 2 t.second
  fraction := printFraction t.nanosecond

theorem Timestamp.text_spelling (t : Timestamp) : t.spelling.text = t.print := by
  simp only [Spelling.text, Spelling.date, Spelling.time, spelling, print, List.append_assoc,
    List.cons_append]

theorem Timestamp.Valid.spelled {t : Timestamp} (valid : t.Valid) : t.spelling.Of t := by
  have short := daysInMonth_le t.year t.month
  rcases valid with ⟨_, _, _, months, _, days, hour, minute, second, nanosecond⟩
  exact {
    year := readYear_printYear t.year
    month := Decimal.spells_padded Nat.two_pos (by omega)
    day := Decimal.spells_padded Nat.two_pos (by omega)
    hour := Decimal.spells_padded Nat.two_pos (by omega)
    minute := Decimal.spells_padded Nat.two_pos (by omega)
    second := Decimal.spells_padded Nat.two_pos (by omega)
    fraction := readFraction_printFraction nanosecond }

/-! ## What the reader reads -/

section Read

variable {t : Timestamp}

theorem valid_of_checked {found : Timestamp × List Char}
    (checked : (if found.2.isEmpty ∧ found.1.Valid then some found.1 else none) = some t) :
    t.Valid := by
  split at checked
  · cases checked
    exact (‹_ ∧ _› : _ ∧ _).2
  · cases checked

/-- Only timestamps of the calendar and of the clock are read. -/
theorem Timestamp.valid_of_read {text : String} (read : Timestamp.read text = some t) :
    t.Valid := by
  rcases Option.or_eq_some_iff.mp read with dateTime | ⟨_, dateOnly⟩
  · rcases Option.bind_eq_some_iff.mp dateTime with ⟨_, _, rest⟩
    rcases Option.bind_eq_some_iff.mp rest with ⟨_, _, checked⟩
    exact valid_of_checked checked
  · rcases Option.bind_eq_some_iff.mp dateOnly with ⟨_, _, checked⟩
    exact valid_of_checked checked

/-- What was printed is read as what it was. -/
theorem Timestamp.Valid.read_text (valid : t.Valid) : Timestamp.read t.text = some t := by
  rw [Timestamp.text, ← t.text_spelling, valid.spelled.read_eq, if_pos valid]

/-- A text with a year of four digits and a whole second is what is printed for it. -/
theorem Spelling.Of.print_eq {s : Spelling} (spelled : s.Of t) {year : Nat}
    (plain : Decimal.Spells 4 year s.year) (whole : s.fraction = []) : t.print = s.text := by
  have sameYear : t.year = year := by
    have read := (spelled.year []).symm.trans (readYear_of_spells plain [])
    exact congrArg Prod.fst (Option.some.inj read)
  have noFraction : t.nanosecond = 0 := by
    have read := spelled.fraction
    rw [whole] at read
    exact (congrArg Prod.fst (Option.some.inj read)).symm
  have four := plain.lt (by decide)
  have same : t.spelling = s := by
    cases s
    cases whole
    simp only [Timestamp.spelling, spelled.month.padded_eq Nat.two_pos,
      spelled.day.padded_eq Nat.two_pos, spelled.hour.padded_eq Nat.two_pos,
      spelled.minute.padded_eq Nat.two_pos, spelled.second.padded_eq Nat.two_pos, noFraction]
    congr 1
    rw [printYear, sameYear, if_pos (by omega), Int.toNat_natCast,
      plain.padded_eq (by decide)]
  rw [← t.text_spelling, same]

end Read

end Time

namespace Value

open Time

/-- A timestamp that a text spells is displayed so that it is spelled again, to the nanosecond, and
is displayed in the same way from then on. -/
theorem timestamp_of_display {text : String} {t : Timestamp}
    (spelled : (Value.text text).timestamp? = some t) :
    let shown := (Value.timestamp t).display
    (Value.text shown).timestamp? = some t ∧
      (Value.text shown).timestamp?.map (fun again => (Value.timestamp again).display) =
        some shown := by
  intro shown
  have valid : t.Valid := Timestamp.valid_of_read spelled
  have again : (Value.text shown).timestamp? = some t := valid.read_text
  refine ⟨again, ?_⟩
  rw [again]
  rfl

/-- A leap second of a leap day before the first year, given with more digits than are kept. -/
theorem timestamp_of_display_of_leap_second :
    let text := "-44-2-29  23:59:60.1234567891"
    let t : Timestamp := ⟨-44, 2, 29, 23, 59, 60, 123456789⟩
    (Value.text text).timestamp? = some t ∧
      (Value.timestamp t).display = "-0044-02-29 23:59:60.123456789" ∧
      (Value.text "-0044-02-29 23:59:60.123456789").timestamp? = some t := by
  intro text t
  have spelled : (Value.text text).timestamp? = some t := by decide +kernel
  have shown : (Value.timestamp t).display = "-0044-02-29 23:59:60.123456789" := by decide +kernel
  exact ⟨spelled, shown, shown ▸ (timestamp_of_display spelled).1⟩

end Value
end ScopedSql
