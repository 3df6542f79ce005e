import Mathlib.Data.List.Forall2
import ScopedSql.Json.Printer
import ScopedSql.Json.Reader
import ScopedSql.Proofs.Decimal.Numerals

namespace ScopedSql
namespace Json

/-!
# JSON read back

A string is read as it was written, whatever characters it has and whatever
follows it.  A number is read as it was written if a mark follows that ends it.
The fields of an object are read one after the other if each of them is.
-/

/-- There is no white space to skip in front of anything else. -/
theorem skipSpace_of_ink {c : Char} (ink : isSpace c = false) (cs : List Char) :
    skipSpace (c :: cs) = c :: cs := by
  rw [skipSpace, List.dropWhile_cons_of_neg]
  rw [ink]
  exact Bool.false_ne_true

/-! ## Strings -/

theorem hexFour?_escape : forall n, n < 0x20 ->
    hexFour? '0' '0' (hexDigit (n / 16)) (hexDigit (n % 16)) = some n := by
  decide

/-- An escaped character is read as that character. -/
theorem readString_escaped (c : Char) (rest : List Char) :
    readString (escaped c ++ rest) = prepend c (readString rest) := by
  unfold escaped
  split
  · subst c
    rfl
  split
  · subst c
    rfl
  split
  · subst c
    rfl
  split
  · subst c
    rfl
  split
  · subst c
    rfl
  split
  · subst c
    rfl
  split
  · subst c
    rfl
  split
  · rename_i control
    have number := hexFour?_escape c.toNat control
    have whole : isHighSurrogate c.toNat = false := by
      rw [isHighSurrogate, decide_eq_false (by omega), Bool.false_and]
    have low : isLowSurrogate c.toNat = false := by
      rw [isLowSurrogate, decide_eq_false (by omega), Bool.false_and]
    simp only [List.cons_append, List.nil_append, readString, number, whole, low,
      Bool.false_eq_true, if_false, Char.ofNat_toNat]
  · rename_i noQuote noBackslash _ _ _ _ _ noControl
    rw [List.singleton_append, readString, if_neg]
    · simp only [noControl, noBackslash, decide_false, Bool.or_self, Bool.false_eq_true,
        not_false_eq_true]
    · exact noQuote
    · intro _ _ _ _ _ backslash
      exact absurd backslash noBackslash
    · intro _ _ backslash
      exact absurd backslash noBackslash

/-- The content of a string is read up to its closing quote, whatever follows. -/
theorem readString_flatMap (content rest : List Char) :
    readString (content.flatMap escaped ++ '"' :: rest) = some (content, rest) := by
  induction content with
  | nil => rfl
  | cons c content inductionHypothesis =>
      rw [List.flatMap_cons, List.append_assoc, readString_escaped, inductionHypothesis, prepend]

/-! ## Pieces of an object -/

/-- What follows a piece of an object. -/
inductive Stop : List Char -> Prop
  | comma (rest : List Char) : Stop (',' :: rest)
  | brace (rest : List Char) : Stop ('\x7d' :: rest)

/-- A reader takes a piece for a value, and leaves what follows it. -/
def Takes {α : Type} (read : List Char -> Option (α × List Char)) (piece : List Char) (x : α) :
    Prop :=
  forall rest, Stop rest -> read (piece ++ rest) = some (x, rest)

theorem printString_append (s : String) (rest : List Char) :
    printString s ++ rest = '"' :: (s.toList.flatMap escaped ++ '"' :: rest) := by
  rw [printString, List.append_assoc, List.singleton_append, List.cons_append]

theorem readName_printString (name : String) (rest : List Char) :
    readName (printString name ++ ':' :: rest) = some (name, rest) := by
  have quote : isSpace '"' = false := rfl
  have colon : isSpace ':' = false := rfl
  rw [printString_append, readName, skipSpace_of_ink quote]
  simp only [readString_flatMap, skipSpace_of_ink colon, String.ofList_toList]

/-- A number that is written is read up to the mark behind it. -/
theorem takes_digits (n : Nat) : Takes readNumber (Decimal.digits n)
    { negative := false, whole := Decimal.digits n, fraction := [], exponent := none } := by
  intro rest stop
  have figures := Decimal.figures_digits n
  have whole : (Decimal.digits n ++ rest).takeWhile Char.isDigit = Decimal.digits n := by
    rw [List.takeWhile_append_of_pos figures.allDigits]
    cases stop <;> exact List.append_nil _
  have left : (Decimal.digits n ++ rest).dropWhile Char.isDigit = rest := by
    rw [List.dropWhile_append_of_pos figures.allDigits]
    cases stop <;> rfl
  have noSign : forall tail, Decimal.digits n ++ rest = '-' :: tail -> False := by
    intro tail signed
    rcases List.exists_cons_of_ne_nil figures.nonempty with ⟨c, ds, written⟩
    rw [written] at signed
    exact figures.ne_cons rfl ds (written.trans (by rw [(List.cons.inj signed).1]))
  have noZero : ¬((Decimal.digits n).head? = some '0' ∧ Decimal.digits n ≠ ['0']) := by
    rintro ⟨first, more⟩
    exact more (Decimal.digits_noZero first)
  have noFraction : readFraction rest = some ([], rest) := by
    cases stop <;> rfl
  have noExponent : readExponent rest = some (none, rest) := by
    cases stop <;> rfl
  rw [readNumber, whole, left, if_neg (mt List.isEmpty_iff.mp figures.nonempty)]
  · simp only [if_neg noZero, noFraction, noExponent, Option.bind_eq_bind, Option.bind_some]
    rfl
  · exact noSign

/-! ## Objects -/

/-- A field as it stands in an object. -/
def printField (field : String × Json) : List Char :=
  printString field.1 ++ ':' :: print field.2

section Fields

variable {α : Type} {entry : List Char -> Option (α × List Char)} {cs rest : List Char} {x : α}

theorem readEntries_last (taken : entry cs = some (x, '\x7d' :: rest)) (fuel : Nat) :
    readEntries '\x7d' entry (fuel + 1) cs = some ([x], rest) := by
  rw [readEntries, taken]
  rfl

theorem readEntries_more (taken : entry cs = some (x, ',' :: rest)) (fuel : Nat) :
    readEntries '\x7d' entry (fuel + 1) cs =
      (readEntries '\x7d' entry fuel rest).map (fun read => (x :: read.1, read.2)) := by
  rw [readEntries, taken]
  change (readEntries '\x7d' entry fuel rest).bind (fun read => some (x :: read.1, read.2)) = _
  cases readEntries '\x7d' entry fuel rest <;> rfl

theorem printFields_single (field : String × Json) : printFields [field] = printField field := by
  rw [printFields, printField]

theorem printFields_more (field next : String × Json) (fields : List (String × Json)) :
    printFields (field :: next :: fields) =
      printField field ++ ',' :: printFields (next :: fields) := by
  simp only [printFields, printField, List.append_assoc, List.cons_append]

/-- Fields that are taken one by one are taken together, up to the closing brace. -/
theorem readEntries_printFields {fields : List (String × Json)} {xs : List α}
    (taken : List.Forall₂ (fun field x => Takes entry (printField field) x) fields xs)
    (nonempty : fields ≠ []) {fuel : Nat} (enough : fields.length ≤ fuel) (rest : List Char) :
    readEntries '\x7d' entry fuel (printFields fields ++ '\x7d' :: rest) = some (xs, rest) := by
  induction taken generalizing fuel with
  | nil => exact absurd rfl nonempty
  | @cons field x fields xs first others inductionHypothesis =>
      obtain ⟨fuel, rfl⟩ : exists less, fuel = less + 1 :=
        Nat.exists_eq_succ_of_ne_zero (Nat.ne_of_gt (Nat.lt_of_lt_of_le (Nat.succ_pos _) enough))
      cases fields with
      | nil =>
          cases others
          rw [printFields_single]
          exact readEntries_last (first _ (.brace rest)) fuel
      | cons next fields =>
          rw [printFields_more, List.append_assoc, List.cons_append,
            readEntries_more (first _ (.comma _)),
            inductionHypothesis (List.cons_ne_nil next fields) (Nat.le_of_succ_le_succ enough)]
          rfl

theorem exists_printField_eq (field : String × Json) :
    exists rest, printField field = '"' :: rest := by
  rw [printField, printString_append]
  exact ⟨_, rfl⟩

theorem length_printFields (fields : List (String × Json)) :
    fields.length ≤ (printFields fields).length := by
  induction fields with
  | nil => exact Nat.zero_le _
  | cons field fields inductionHypothesis =>
      rcases exists_printField_eq field with ⟨rest, quoted⟩
      cases fields with
      | nil =>
          rw [printFields_single, quoted]
          exact Nat.succ_le_succ (Nat.zero_le _)
      | cons next fields =>
          rw [printFields_more, quoted]
          simp only [List.length_append, List.length_cons] at inductionHypothesis ⊢
          omega

/-- An object is read back behind its opening brace, if its fields are. -/
theorem readAll_printFields {fields : List (String × Json)} {xs : List α}
    (taken : List.Forall₂ (fun field x => Takes entry (printField field) x) fields xs)
    (nonempty : fields ≠ []) (rest : List Char) :
    readAll '\x7d' entry (printFields fields ++ '\x7d' :: rest) = some (xs, rest) := by
  have quoted : exists tail, printFields fields = '"' :: tail := by
    rcases List.exists_cons_of_ne_nil nonempty with ⟨field, others, rfl⟩
    rcases exists_printField_eq field with ⟨tail, quoted⟩
    cases others with
    | nil => exact ⟨tail, by rw [printFields_single, quoted]⟩
    | cons next others => exact ⟨_, by rw [printFields_more, quoted, List.cons_append]⟩
  rcases quoted with ⟨tail, quoted⟩
  have enough : fields.length ≤ (tail ++ '\x7d' :: rest).length + 1 := by
    have long := length_printFields fields
    rw [quoted, List.length_cons] at long
    rw [List.length_append]
    omega
  have entries := readEntries_printFields taken nonempty enough rest
  rw [quoted, List.cons_append] at entries ⊢
  exact entries

end Fields

end Json
end ScopedSql
