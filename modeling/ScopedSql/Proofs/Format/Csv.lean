import ScopedSql.Format.Csv
import ScopedSql.Proofs.Format.Fields

namespace ScopedSql
namespace Csv

/-!
# Reading back what was written

A field that was written, in quotes or without, is put character by character
into the field that the reader has open.  A comma then ends the field and a line
feed the record, so that a text gives back the header and the rows from which it
was made, and nothing else.
-/

variable {r : Reader} {field rest : List Char} {fields : List String}

/-- Put characters into the open field. -/
def Reader.pushAll (r : Reader) (cs : List Char) : Reader :=
  { r with field := r.field ++ cs }

@[simp] theorem Reader.pushAll_nil (r : Reader) : r.pushAll [] = r := by
  simp [Reader.pushAll]

@[simp] theorem Reader.pushAll_push (r : Reader) (c : Char) (cs : List Char) :
    (r.push c).pushAll cs = r.pushAll (c :: cs) := by
  simp [Reader.pushAll, Reader.push]

/-! ## Fields -/

/-- Characters that mean nothing outside quotes are put into the field. -/
theorem readFrom_plain
    (plain : forall c, c ∈ field -> ¬ (c = ',' ∨ c = '"' ∨ c = '\r' ∨ c = '\n')) :
    readFrom r false (field ++ rest) = readFrom (r.pushAll field) false rest := by
  induction field generalizing r with
  | nil => rw [List.nil_append, Reader.pushAll_nil]
  | cons c field inductionHypothesis =>
      have first := plain c List.mem_cons_self
      simp only [not_or] at first
      rcases first with ⟨comma, quote, carriage, feed⟩
      rw [List.cons_append, readFrom, if_neg quote, if_neg comma, if_neg feed, if_neg carriage,
        inductionHypothesis fun other member => plain other (List.mem_cons_of_mem _ member),
        Reader.pushAll_push]

/-- Inside quotes everything is put into the field, a doubled quote as one, up to the quote that
is not followed by another. -/
theorem readFrom_doubleQuotes (follows : rest.head? ≠ some '"') :
    readFrom r true (doubleQuotes field ++ '"' :: rest) =
      readFrom (r.pushAll field) false rest := by
  induction field generalizing r with
  | nil =>
      rw [doubleQuotes, List.flatMap_nil, List.nil_append, Reader.pushAll_nil]
      rcases rest with _ | ⟨c, rest⟩
      · simp [readFrom]
      · have other : c ≠ '"' := fun same => follows (by rw [same, List.head?_cons])
        simp [readFrom, other]
  | cons c field inductionHypothesis =>
      have doubled : doubleQuotes (c :: field) =
          (if c = '"' then ['"', '"'] else [c]) ++ doubleQuotes field := List.flatMap_cons
      rw [doubled, ← Reader.pushAll_push, ← inductionHypothesis]
      by_cases quote : c = '"'
      · rw [if_pos quote, quote]
        rfl
      · rw [if_neg quote]
        simp [readFrom, quote]

/-- A field that was written is put into the open field, unless another quote follows it. -/
theorem readFrom_writeField (follows : rest.head? ≠ some '"') :
    readFrom r false (writeField field ++ rest) = readFrom (r.pushAll field) false rest := by
  rw [writeField]
  split
  · have opened : readFrom r false ('"' :: (doubleQuotes field ++ ('"' :: rest))) =
        readFrom r true (doubleQuotes field ++ '"' :: rest) := by
      rw [readFrom, if_pos rfl]
    rw [List.cons_append, List.cons_append, List.append_assoc, List.singleton_append, opened,
      readFrom_doubleQuotes follows]
  · rename_i unquoted
    apply readFrom_plain
    intro c member special
    apply unquoted
    have found : field.any (fun c => c = ',' || c = '"' || c = '\r' || c = '\n') = true := by
      apply List.any_eq_true.mpr
      refine ⟨c, member, ?_⟩
      simpa only [Bool.or_eq_true, decide_eq_true_eq, or_assoc] using special
    rw [needsQuotes, found, Bool.or_true]

/-! ## Records -/

/-- Where no field is open yet, the fields of a record are read up to its end, which ends the
record. -/
theorem readFrom_writeFields (some : fields ≠ []) (closed : r.field = []) :
    readFrom r false (writeFields (fields.map String.toList) ++ '\n' :: rest) =
      readFrom { records := r.records ++ [r.record ++ fields], record := [], field := [] }
        false rest := by
  induction fields generalizing r with
  | nil => exact absurd rfl some
  | cons first others inductionHypothesis =>
      have ends : (r.pushAll first.toList).endField =
          { records := r.records, record := r.record ++ [first], field := [] } := by
        simp [Reader.endField, Reader.pushAll, closed]
      rcases others with _ | ⟨second, others⟩
      · have ended : (r.pushAll first.toList).endRecord =
            { records := r.records ++ [r.record ++ [first]], record := [], field := [] } := by
          rw [Reader.endRecord, ends]
          rfl
        have feed : ('\n' :: rest).head? ≠ Option.some '"' := by simp
        rw [List.map_cons, List.map_nil, writeFields, readFrom_writeField feed, readFrom,
          if_neg (by decide), if_neg (by decide), if_pos rfl, ended]
      · have comma : (',' :: (writeFields ((second :: others).map String.toList) ++
            '\n' :: rest)).head? ≠ Option.some '"' := by simp
        rw [List.map_cons, List.map_cons, writeFields, ← List.map_cons, List.append_assoc,
          List.cons_append, readFrom_writeField comma, readFrom, if_neg (by decide), if_pos rfl,
          ends, inductionHypothesis (List.cons_ne_nil _ _) rfl, List.append_assoc]
        · rfl
        · exact fun impossible => nomatch impossible

/-- Between records, written records are read as they are. -/
theorem readFrom_writeRecords {earlier records : List (List String)}
    (filled : forall record, record ∈ records -> record ≠ []) :
    readFrom { records := earlier, record := [], field := [] } false
      (records.flatMap writeRecord) = earlier ++ records := by
  induction records generalizing earlier with
  | nil => simp [readFrom, Reader.finish]
  | cons record records inductionHypothesis =>
      rw [List.flatMap_cons, writeRecord, List.append_assoc, List.singleton_append,
        readFrom_writeFields (filled record List.mem_cons_self) rfl,
        inductionHypothesis fun other member => filled other (List.mem_cons_of_mem _ member),
        List.append_assoc]
      rfl

/-! ## Results -/

/-- What is written for a result with columns is one record for the header and one for each row,
and every row fits. -/
theorem write_eq_ok {set : ResultSet} {text : String} (declared : set.columns ≠ [])
    (written : write set = .ok text) :
    (forall row, row ∈ set.rows -> row.Fits set.columns) ∧
      text.toList =
        (set.columns :: set.rows.map (Row.texts set.columns.length)).flatMap writeRecord := by
  rw [write, if_neg (by simpa using declared)] at written
  cases made : set.rows.mapM (Format.rowFields set.columns) with
  | error e =>
      rw [made] at written
      cases written
  | ok records =>
      rw [made] at written
      cases written
      rcases Format.mapM_rowFields_eq_ok made with ⟨fit, texts⟩
      exact ⟨fit, by rw [String.toList_ofList, texts]⟩

/-- Reading what was written gives back the names of the columns and the display texts of all
rows, in their order, and every record has one field for each column. -/
theorem read_written {set : ResultSet} {text : String} (declared : set.columns ≠ [])
    (written : write set = .ok text) :
    read text = set.columns :: set.rows.map (Row.texts set.columns.length) ∧
      forall record, record ∈ read text -> record.length = set.columns.length := by
  rcases write_eq_ok declared written with ⟨fit, characters⟩
  have widths : forall record,
      record ∈ set.columns :: set.rows.map (Row.texts set.columns.length) ->
        record.length = set.columns.length := by
    intro record member
    rcases List.mem_cons.mp member with rfl | member
    · rfl
    · rcases List.mem_map.mp member with ⟨row, found, rfl⟩
      exact (fit row found).length_texts
  have back : read text = set.columns :: set.rows.map (Row.texts set.columns.length) := by
    rw [read, characters, readFrom_writeRecords, List.nil_append]
    intro record member empty
    have width := widths record member
    rw [empty, List.length_nil] at width
    exact declared (List.length_eq_zero_iff.mp width.symm)
  refine ⟨back, ?_⟩
  rw [back]
  exact widths

/-- Empty names and fields, line breaks and quotes come back as they were. -/
theorem read_written_of_awkward_fields :
    let set := (ResultSet.new ["", " a"]).addRow
      (.new ["", " a"] [.text "say \"hi\",\r\n", .null, .int 7])
    let text := ",\" a\"\n\"say \"\"hi\"\",\r\n\",\n"
    write set = .ok text ∧ read text = [["", " a"], ["say \"hi\",\r\n", ""]] := by
  intro set text
  have written : write set = .ok text := by rfl
  exact ⟨written, (read_written (List.cons_ne_nil _ _) written).1⟩

end Csv
end ScopedSql
