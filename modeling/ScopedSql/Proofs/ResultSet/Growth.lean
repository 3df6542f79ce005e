import ScopedSql.Proofs.Outcome
import ScopedSql.ResultSet.Basic

namespace ScopedSql

/-!
# Results that grow

A result grows by values in its own columns and by whole rows from elsewhere,
which have columns and an index of their own.  However it grows, its rows are
those that were added, in their order, and it counts them.  Every row keeps the
index of its own names, so the index and a scan of the names find the same value,
also where names repeat and where values are missing.
-/

/-! ## The index of names -/

namespace ColumnIndex

/-- Names that are entered get the first of their positions, unless they have one already. -/
theorem lookup_enter (index : ColumnIndex) (position : Nat) (names : List String)
    (name : String) :
    (enter index position names).lookup name =
      (index.lookup name).or
        ((names.findIdx? (fun other => other = name)).map (fun later => position + later)) := by
  induction names generalizing index position with
  | nil => simp [enter]
  | cons first names inductionHypothesis =>
      rw [enter, inductionHypothesis, List.findIdx?_cons]
      by_cases same : first = name
      · subst same
        cases known : index.lookup first with
        | some earlier => simp [known]
        | none => simp [List.lookup_append, known]
      · have unaffected : (if (index.lookup first).isSome then index
            else index ++ [(first, position)]).lookup name = index.lookup name := by
          split
          · rfl
          · simp [List.lookup_append, List.lookup_cons, beq_false_of_ne (Ne.symm same)]
        rw [unaffected]
        simp [same, Option.map_map, Function.comp_def, Nat.add_assoc, Nat.add_comm 1]

theorem lookup_ofColumns (columns : List String) (name : String) :
    (ofColumns columns).lookup name = columns.findIdx? (fun other => other = name) := by
  rw [ofColumns, lookup_enter]
  simp

end ColumnIndex

/-! ## Rows and their names -/

namespace Row

variable {row : Row} {name : String} {position : Nat}

/-- The index of the row is that of its own names. -/
def Indexed (row : Row) : Prop :=
  row.index = .ofColumns row.columns

/-- The row's own names hold the name at this position and at none before it. -/
structure FirstAt (row : Row) (name : String) (position : Nat) : Prop where
  there : row.columns[position]? = some name
  earlier : forall other, other < position -> row.columns[other]? ≠ some name

/-- Looking up a name tells what the row's own names and values say. -/
structure Searchable (row : Row) : Prop where
  agree : forall name, row.index.lookup name = row.scan? name
  position : forall name position, row.position? name = some position ↔ row.FirstAt name position
  absent : forall name, row.position? name = none ↔ name ∉ row.columns
  value : forall name position, row.FirstAt name position -> row.value? name = row.values[position]?
  nothing : forall name, name ∉ row.columns -> row.value? name = none

theorem scan?_eq_some_iff : row.scan? name = some position ↔ row.FirstAt name position := by
  rw [scan?, List.findIdx?_eq_some_iff_getElem]
  constructor
  · rintro ⟨inside, there, earlier⟩
    refine ⟨by rw [List.getElem?_eq_getElem inside, of_decide_eq_true there], ?_⟩
    intro other before found
    rcases List.getElem?_eq_some_iff.mp found with ⟨_, same⟩
    exact earlier other before (decide_eq_true same)
  · rintro ⟨there, earlier⟩
    rcases List.getElem?_eq_some_iff.mp there with ⟨inside, same⟩
    refine ⟨inside, decide_eq_true same, ?_⟩
    intro other before found
    apply earlier other before
    rw [List.getElem?_eq_getElem (Nat.lt_trans before inside), of_decide_eq_true found]

theorem scan?_eq_none_iff : row.scan? name = none ↔ name ∉ row.columns := by
  rw [scan?, List.findIdx?_eq_none_iff]
  constructor
  · intro different member
    exact of_decide_eq_false (different name member) rfl
  · intro absent other member
    apply decide_eq_false
    rintro rfl
    exact absent member

theorem Indexed.searchable (indexed : row.Indexed) : row.Searchable := by
  have agree : forall name, row.index.lookup name = row.scan? name := by
    intro name
    rw [indexed, ColumnIndex.lookup_ofColumns, scan?]
  have scanned : forall name, row.position? name = row.scan? name := by
    intro name
    rw [position?, agree, Option.or_self]
  exact {
    agree
    position := fun name position => by rw [scanned, scan?_eq_some_iff]
    absent := fun name => by rw [scanned, scan?_eq_none_iff]
    value := fun name position first => by
      rw [value?, scanned, scan?_eq_some_iff.mpr first, Option.bind_some]
    nothing := fun name absent => by
      rw [value?, scanned, scan?_eq_none_iff.mpr absent, Option.bind_none] }

end Row

/-! ## Additions -/

/-- What is added to a result. -/
inductive Addition
  /-- Values in the declared columns. -/
  | cells (values : List Value)
  /-- A row with columns of its own. -/
  | whole (row : Row)

namespace Addition

/-- Only values can fail to fit, and only by their number. -/
def fits (columns : List String) : Addition -> Bool
  | .cells values => values.length = columns.length
  | .whole _ => true

/-- What a caller is told of an addition. -/
def outcome (columns : List String) : Addition -> Except Error Unit
  | .cells values =>
    if values.length = columns.length then .ok ()
    else .error (.execution (.rowWidth values.length columns.length))
  | .whole _ => .ok ()

/-- The row that is added. -/
def asRow (columns : List String) : Addition -> Row
  | .cells values => .new columns values
  | .whole row => row

theorem isOk_outcome (columns : List String) (addition : Addition) :
    (addition.outcome columns).isOk = addition.fits columns := by
  cases addition with
  | cells values =>
      by_cases width : values.length = columns.length
      · rw [outcome, if_pos width, fits, decide_eq_true width]
        rfl
      · rw [outcome, if_neg width, fits, decide_eq_false width]
        rfl
  | whole row => rfl

end Addition

namespace ResultSet

/-- Add to a result that goes on as it was where the addition fails. -/
def add (set : ResultSet) : Addition -> Except Error Unit × ResultSet
  | .cells values =>
    match set.addValues values with
    | .ok wider => (.ok (), wider)
    | .error e => (.error e, set)
  | .whole row => (.ok (), set.addRow row)

/-- Make one addition after the other, whatever comes of each. -/
def addAll (set : ResultSet) : List Addition -> List (Except Error Unit) × ResultSet
  | [] => ([], set)
  | addition :: additions =>
    let (outcome, set) := set.add addition
    let (outcomes, set) := set.addAll additions
    (outcome :: outcomes, set)

/-- The result indexes its columns and counts its rows, and each row has the index of its own
names. -/
structure Orderly (set : ResultSet) : Prop where
  index : set.index = .ofColumns set.columns
  counted : set.affected = set.rows.length
  indexed : forall row, row ∈ set.rows -> row.Indexed

/-- A result that can be made, also of rows that were taken from another one. -/
inductive Made : ResultSet -> Prop
  | new (columns : List String) : Made (.new columns)
  | values {set wider : ResultSet} {values : List Value} (made : Made set)
      (added : set.addValues values = .ok wider) : Made wider
  | row {set : ResultSet} (made : Made set) (columns : List String) (values : List Value) :
      Made (set.addRow (.new columns values))
  | taken {set other : ResultSet} {row : Row} (made : Made set) (otherMade : Made other)
      (there : row ∈ other.rows) : Made (set.addRow row)

end ResultSet

/-- A row that can be made, by itself or as part of a result. -/
inductive Row.Made : Row -> Prop
  | new (columns : List String) (values : List Value) : Row.Made (.new columns values)
  | taken {set : ResultSet} {row : Row} (made : set.Made) (there : row ∈ set.rows) : Row.Made row

namespace ResultSet

/-! ## One addition -/

variable {set after : ResultSet} {addition : Addition} {additions : List Addition}
  {columns : List String} {first : List Row}

theorem Orderly.new (columns : List String) : (new columns).Orderly :=
  ⟨rfl, rfl, fun _ impossible => (nomatch impossible)⟩

theorem Orderly.addRow {row : Row} (orderly : set.Orderly) (indexed : row.Indexed) :
    (set.addRow row).Orderly where
  index := orderly.index
  counted := by
    rw [ResultSet.addRow, orderly.counted, List.length_append, List.length_singleton]
  indexed := by
    intro other member
    rcases List.mem_append.mp member with member | member
    · exact orderly.indexed other member
    · cases List.mem_singleton.mp member
      exact indexed

/-- Values of the declared width become a row with the declared columns. -/
theorem Orderly.addValues {values : List Value} (orderly : set.Orderly)
    (width : values.length = set.columns.length) :
    set.addValues values = .ok (set.addRow (.new set.columns values)) := by
  rw [ResultSet.addValues, if_pos width, orderly.index]
  rfl

theorem addValues_eq_ok {values : List Value} (orderly : set.Orderly)
    (added : set.addValues values = .ok after) :
    values.length = set.columns.length ∧ after = set.addRow (.new set.columns values) := by
  by_cases width : values.length = set.columns.length
  · rw [orderly.addValues width] at added
    cases added
    exact ⟨width, rfl⟩
  · rw [ResultSet.addValues, if_neg width] at added
    cases added

/-- An addition is told as it deserves; one that fits adds its row, and another one nothing. -/
theorem Orderly.add (orderly : set.Orderly) (addition : Addition) :
    set.add addition = (addition.outcome set.columns,
      if addition.fits set.columns then set.addRow (addition.asRow set.columns) else set) := by
  cases addition with
  | whole row => rfl
  | cells values =>
      by_cases width : values.length = set.columns.length
      · rw [ResultSet.add, orderly.addValues width, Addition.outcome, if_pos width, Addition.fits,
          decide_eq_true width, if_pos rfl, Addition.asRow]
      · rw [ResultSet.add, ResultSet.addValues, if_neg width, Addition.outcome, if_neg width,
          Addition.fits, decide_eq_false width, if_neg Bool.false_ne_true]

theorem Made.orderly (made : set.Made) : set.Orderly := by
  induction made with
  | new columns => exact .new columns
  | values _ added orderly =>
      rcases addValues_eq_ok orderly added with ⟨_, rfl⟩
      exact orderly.addRow rfl
  | row _ columns values orderly => exact orderly.addRow rfl
  | taken _ _ there orderly otherOrderly =>
      exact orderly.addRow (otherOrderly.indexed _ there)

theorem Orderly.after_add (orderly : set.Orderly)
    (indexed : forall row, addition = .whole row -> row.Indexed) : (set.add addition).2.Orderly := by
  rw [orderly.add]
  by_cases fits : addition.fits set.columns = true
  · simp only [fits, if_true]
    cases addition with
    | cells values => exact orderly.addRow rfl
    | whole row => exact orderly.addRow (indexed row rfl)
  · rw [if_neg fits]
    exact orderly

/-! ## Many additions -/

/-- The rows that additions leave behind. -/
def kept (columns : List String) (additions : List Addition) : List Row :=
  (additions.filter (Addition.fits columns)).map (Addition.asRow columns)

/-- What additions make of a result, and what they are told. -/
structure Grows (set : ResultSet) (additions : List Addition)
    (outcomes : List (Except Error Unit)) (after : ResultSet) : Prop where
  orderly : after.Orderly
  columns : after.columns = set.columns
  rows : after.rows = set.rows ++ kept set.columns additions
  told : outcomes = additions.map (Addition.outcome set.columns)

theorem Orderly.grows (orderly : set.Orderly)
    (indexed : forall row, .whole row ∈ additions -> row.Indexed) :
    set.Grows additions (set.addAll additions).1 (set.addAll additions).2 := by
  induction additions generalizing set with
  | nil => exact ⟨orderly, rfl, (List.append_nil _).symm, rfl⟩
  | cons addition additions inductionHypothesis =>
      have next := orderly.after_add fun row same => indexed row (same ▸ List.mem_cons_self)
      have columns : (set.add addition).2.columns = set.columns := by
        rw [orderly.add]
        simp only
        split <;> rfl
      have rows : (set.add addition).2.rows = set.rows ++ kept set.columns [addition] := by
        rw [orderly.add]
        by_cases fits : addition.fits set.columns = true
        · simp [kept, fits, ResultSet.addRow]
        · simp [kept, fits]
      have rest := inductionHypothesis next fun row member =>
        indexed row (List.mem_cons_of_mem _ member)
      exact {
        orderly := rest.orderly
        columns := rest.columns.trans columns
        rows := by
          rw [addAll, rest.rows, rows, columns, List.append_assoc, kept, kept, kept,
            ← List.map_append, ← List.filter_append]
          rfl
        told := by
          have here : (set.add addition).1 = addition.outcome set.columns := by rw [orderly.add]
          rw [List.map_cons, ← here, ← columns, ← rest.told]
          rfl }

/-- A result of rows of values keeps all of them, in their order. -/
theorem Orderly.addValues_all {rows : List (List Value)} (orderly : set.Orderly)
    (added : rows.foldlM ResultSet.addValues set = .ok after) :
    after.Orderly ∧ after.columns = set.columns ∧
      after.rows = set.rows ++ rows.map (Row.new set.columns) := by
  induction rows generalizing set with
  | nil =>
      cases added
      exact ⟨orderly, rfl, (List.append_nil _).symm⟩
  | cons values rows inductionHypothesis =>
      rw [List.foldlM_cons, bind_eq_ok] at added
      rcases added with ⟨wider, first, rest⟩
      rcases addValues_eq_ok orderly first with ⟨_, rfl⟩
      have next : (set.addRow (.new set.columns values)).Orderly := orderly.addRow rfl
      rcases inductionHypothesis next rest with ⟨orderly, columns, rows⟩
      refine ⟨orderly, columns, ?_⟩
      rw [rows, ResultSet.addRow, List.append_assoc]
      rfl

/-! ## What a result stands for -/

/-- A new result, with its columns and the rows that it has from the beginning. -/
inductive Opened : ResultSet -> List String -> List Row -> Prop
  | new (columns : List String) : Opened (.new columns) columns []
  | empty : Opened .empty [] []
  | ofRows {columns : List String} {rows : List (List Value)} {set : ResultSet}
      (made : ofRows columns rows = .ok set) : Opened set columns (rows.map (Row.new columns))

theorem Opened.start (opened : set.Opened columns first) :
    set.Orderly ∧ set.columns = columns ∧ set.rows = first := by
  cases opened with
  | new => exact ⟨.new _, rfl, rfl⟩
  | empty => exact ⟨.new _, rfl, rfl⟩
  | ofRows made => exact (Orderly.new columns).addValues_all made

end ResultSet

/-- A row has the index of its own names, wherever it was made. -/
theorem Row.Made.indexed {row : Row} (made : row.Made) : row.Indexed := by
  cases made with
  | new => rfl
  | taken made there => exact made.orderly.indexed _ there

namespace ResultSet

variable {set : ResultSet} {columns : List String} {first : List Row}

/-- The result holds these rows under these columns and counts them, finds the values of each row
by the row's own names, and takes values of the declared width only. -/
structure StandsFor (set : ResultSet) (declared : List String) (held : List Row) : Prop where
  columns : set.columns = declared
  rows : set.rows = held
  size : set.size = held.length
  affected : set.affected = held.length
  searchable : forall row, row ∈ held -> row.Searchable
  takes : forall values, values.length = declared.length ->
    set.add (.cells values) = (.ok (), set.addRow (.new declared values))
  refuses : forall values, values.length ≠ declared.length ->
    set.add (.cells values) = (.error (.execution (.rowWidth values.length declared.length)), set)

theorem Orderly.standsFor (orderly : set.Orderly) : set.StandsFor set.columns set.rows where
  columns := rfl
  rows := rfl
  size := rfl
  affected := orderly.counted
  searchable := fun row member => (orderly.indexed row member).searchable
  takes := by
    intro values width
    rw [orderly.add, Addition.outcome, if_pos width, Addition.fits, decide_eq_true width, if_pos rfl,
      Addition.asRow]
  refuses := by
    intro values width
    rw [orderly.add, Addition.outcome, if_neg width, Addition.fits, decide_eq_false width,
      if_neg Bool.false_ne_true]

/-- Whatever is added to a new result, its rows are the first ones and those of the additions that
succeeded, in their order and in their number.  Every row that can be made is found by its own
names. -/
theorem standsFor_of_additions (opened : set.Opened columns first) (additions : List Addition)
    (made : forall row, .whole row ∈ additions -> row.Made) :
    let outcomes := (set.addAll additions).1
    let after := (set.addAll additions).2
    after.StandsFor columns (first ++ kept columns additions) ∧
      outcomes = additions.map (Addition.outcome columns) ∧
      after.size = first.length + outcomes.countP Except.isOk ∧
      forall row : Row, row.Made -> row.Searchable := by
  intro outcomes after
  rcases opened.start with ⟨orderly, rfl, rfl⟩
  have grows : set.Grows additions outcomes after :=
    orderly.grows fun row member => (made row member).indexed
  have stands : after.StandsFor set.columns (set.rows ++ kept set.columns additions) := by
    rw [← grows.rows, ← grows.columns]
    exact grows.orderly.standsFor
  have counted : outcomes.countP Except.isOk = (kept set.columns additions).length := by
    rw [grows.told, List.countP_map, kept, List.length_map, ← List.countP_eq_length_filter]
    apply List.countP_congr
    intro addition _
    rw [Function.comp_apply, Addition.isOk_outcome]
  refine ⟨stands, grows.told, ?_, fun row made => made.indexed.searchable⟩
  rw [stands.size, List.length_append, counted]

/-- One of four additions fails for its width.  Of the two equal names of a row the first counts,
and there is no value for the one that stands behind all values. -/
theorem standsFor_of_mixed_additions :
    let declared := ["a", "b", "a"]
    let narrow : Row := .new ["c", "c", "d"] [.null]
    let taken : Row := .new ["b"] [.int 7, .int 8]
    let additions : List Addition :=
      [.cells [.int 1], .whole narrow, .cells [.int 4, .int 5, .int 6], .whole taken]
    exists set, ofRows declared [[.int 1, .int 2, .int 3]] = .ok set ∧
      (set.addAll additions).1.map Except.isOk = [false, true, true, true] ∧
      (set.addAll additions).2.StandsFor declared [.new declared [.int 1, .int 2, .int 3], narrow,
        .new declared [.int 4, .int 5, .int 6], taken] ∧
      (set.addAll additions).2.size = 4 ∧
      narrow.FirstAt "c" 0 ∧ narrow.value? "c" = some .null ∧
      narrow.FirstAt "d" 2 ∧ narrow.value? "d" = none := by
  intro declared narrow taken additions
  have opened : Opened _ declared ([[.int 1, .int 2, .int 3]].map (Row.new declared)) := .ofRows rfl
  have elsewhere : ((new ["x"]).addRow taken).Made := .row (.new ["x"]) ["b"] [.int 7, .int 8]
  have made : forall row, .whole row ∈ additions -> row.Made := by
    intro row member
    simp only [additions, List.mem_cons, reduceCtorEq, Addition.whole.injEq, List.not_mem_nil,
      false_or, or_false] at member
    rcases member with rfl | rfl
    · exact .new _ _
    · exact .taken elsewhere List.mem_cons_self
  rcases standsFor_of_additions opened additions made with ⟨stands, outcomes, _, searchable⟩
  have search : narrow.Searchable := searchable narrow (.new _ _)
  have atFirst : narrow.FirstAt "c" 0 := (search.position "c" 0).mp rfl
  have atLast : narrow.FirstAt "d" 2 := (search.position "d" 2).mp rfl
  refine ⟨_, rfl, ?_, stands, stands.size, atFirst, ?_, atLast, ?_⟩
  · rw [outcomes]
    rfl
  · rw [search.value "c" 0 atFirst]
    rfl
  · rw [search.value "d" 2 atLast]
    rfl

end ResultSet
end ScopedSql
