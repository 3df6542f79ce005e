import ScopedSql.Scope
import ScopedSql.Scripted.Control

namespace ScopedSql
namespace Scripted

/-!
# Reading back the statements that are made here

A session takes the statements that begin and end a transaction for what they
are, and reads out of a statement that moves it exactly the name that was put
in.  Names that pass their check hold no quotes, so quoting leaves them alone
and taking off the quotes gives them back.
-/

open Text

namespace Control

@[simp] theorem read_begin : read "START TRANSACTION" = .begin := by decide +kernel

@[simp] theorem read_commit : read "COMMIT" = .commit := by decide +kernel

@[simp] theorem read_rollback : read "ROLLBACK" = .rollback := by decide +kernel

end Control

/-- A semicolon at the end of a statement does not count. -/
theorem bare_of_ends {first last : Char} (firstInk : isBlank first = false)
    (lastInk : isBlank last = false) (lastPlain : last ≠ ';') (middle : List Char) :
    bare (first :: (middle ++ [last, ';'])) = first :: (middle ++ [last]) := by
  have whole : trimmed (first :: (middle ++ [last, ';'])) = first :: (middle ++ [last, ';']) := by
    have semicolonInk : isBlank ';' = false := by decide
    have kept := strip_of_ends_stay firstInk semicolonInk (middle ++ [last])
    simpa only [trimmed, List.append_assoc, List.cons_append, List.nil_append] using kept
  have cut : dropEndWhile (fun c => c = ';') (first :: (middle ++ [last, ';'])) =
      first :: (middle ++ [last]) := by
    have dropped := dropEndWhile_concat_of_drop (fun c => c = ';') (decide_eq_true rfl)
      (first :: (middle ++ [last]))
    have stayed := dropEndWhile_concat_of_stays (fun c => c = ';') (decide_eq_false lastPlain)
      (first :: middle)
    simp only [List.cons_append, List.append_assoc, List.nil_append] at dropped stayed
    rw [dropped, stayed]
  rw [bare, whole, cut]
  exact strip_of_ends_stay firstInk lastInk middle

/-- Taking off quotes gives back what holds none. -/
theorem unquote_of_plain {quote : Char} (isQuote : quote = '\x60' ∨ quote = '\'')
    {name : String} (filled : name.toList ≠ [])
    (plain : forall c, c ∈ name.toList -> c ≠ '\x60' ∧ c ≠ '\'') :
    unquote (quote :: (name.toList ++ [quote])) = name := by
  have ink : isBlank quote = false := by rcases isQuote with rfl | rfl <;> decide
  generalize quotes : (fun c : Char => decide (c = '\x60') || decide (c = '\'')) = drop
  have drops : drop quote = true := by
    rw [← quotes]
    rcases isQuote with rfl | rfl <;> decide
  have stays : forall c, c ∈ name.toList -> drop c = false := by
    intro c member
    rw [← quotes]
    simpa using plain c member
  have inside : strip drop (quote :: (name.toList ++ [quote])) = name.toList := by
    rcases List.exists_cons_of_ne_nil filled with ⟨first, rest, split⟩
    have firstStays : drop first = false := stays first (by rw [split]; exact List.mem_cons_self)
    have front : (quote :: (name.toList ++ [quote])).dropWhile drop = name.toList ++ [quote] := by
      rw [List.dropWhile_cons_of_pos drops, split, List.cons_append,
        List.dropWhile_cons_of_neg (by rw [firstStays]; exact Bool.false_ne_true)]
    rw [strip, front, dropEndWhile_concat_of_drop drop drops, ← List.dropLast_concat_getLast filled]
    exact dropEndWhile_concat_of_stays drop (stays _ (List.getLast_mem filled)) _
  rw [unquote, trimmed, strip_of_ends_stay ink ink, quotes, inside, String.ofList_toList]

/-- A text that begins otherwise than a word is not that word. -/
theorem ofList_ne_of_beginning {beginning rest : List Char} {word : String}
    (differs : beginning.isPrefixOf word.toList = false) :
    String.ofList (beginning ++ rest) ≠ word := by
  intro same
  have begins : beginning.isPrefixOf word.toList = true := by
    rw [← same, String.toList_ofList, List.isPrefixOf_iff_prefix]
    exact List.prefix_append beginning rest
  exact Bool.false_ne_true (differs.symm.trans begins)

/-- What follows a beginning that stands in capitals. -/
theorem afterCapitals?_append {beginning : String}
    (capitals : beginning.toList.map Char.toUpper = beginning.toList) (rest : List Char) :
    afterCapitals? beginning (beginning.toList ++ rest) = some rest := by
  rw [afterCapitals?, List.map_append, capitals, after?_append, Option.map_some,
    ← String.length_toList, List.drop_left]

/-- A name of the right shape holds no quotes. -/
theorem unquoted_of_accepts {kind : Name.Kind} {name : String}
    (accepted : kind.accepts name.toList = true) :
    forall c, c ∈ name.toList -> c ≠ '\x60' ∧ c ≠ '\'' := by
  intro c member
  have special := Name.Kind.ne_of_mem_of_accepts accepted member
  exact ⟨special.1, special.2.1⟩

/-- A session takes the selection of a database for what it is. -/
theorem read_use {name : String} (accepted : Name.Kind.database.accepts name.toList = true) :
    Control.read ("USE " ++ Sql.quoteIdentifier name ++ ";") = .use name := by
  have plain := unquoted_of_accepts accepted
  have text : ("USE " ++ Sql.quoteIdentifier name ++ ";").toList =
      'U' :: ((['S', 'E', ' ', '\x60'] ++ name.toList) ++ ['\x60', ';']) := by
    rw [String.toList_append, String.toList_append,
      Sql.toList_quoteIdentifier (fun c member => (plain c member).1)]
    simp
  have stripped : bare ("USE " ++ Sql.quoteIdentifier name ++ ";").toList =
      "USE ".toList ++ ('\x60' :: (name.toList ++ ['\x60'])) := by
    rw [text, bare_of_ends (by decide) (by decide) (by decide)]
    simp
  have other : forall word : String, "USE ".toList.isPrefixOf word.toList = false ->
      String.ofList (("USE ".toList ++ ('\x60' :: (name.toList ++ ['\x60']))).map Char.toUpper) ≠
        word := by
    intro word differs
    rw [List.map_append]
    exact ofList_ne_of_beginning differs
  simp only [Control.read, stripped]
  rw [if_neg, if_neg (other _ (by decide)), if_neg (other _ (by decide)),
    afterCapitals?_append (by decide)]
  · simp only [unquote_of_plain (Or.inl rfl) (Name.Kind.ne_nil_of_accepts accepted) plain]
  · rintro (start | begin)
    · exact other _ (by decide) start
    · exact other _ (by decide) begin

/-- A session takes a checkout for what it is. -/
theorem read_checkout {name : String} (accepted : Name.Kind.branch.accepts name.toList = true) :
    Control.read (Sql.callProcedure "DOLT_CHECKOUT" [name]) = .checkout name := by
  have plain : forall c, c ∈ name.toList -> c ≠ '\'' ∧ c ≠ '\\' ∧ c ≠ '\x00' := by
    intro c member
    exact (Name.Kind.ne_of_mem_of_accepts accepted member).2
  have text : (Sql.callProcedure "DOLT_CHECKOUT" [name]).toList =
      'C' :: (("ALL DOLT_CHECKOUT(".toList ++ ('\'' :: (name.toList ++ ['\'']))) ++
        [')', ';']) := by
    simp only [Sql.callProcedure, List.map_cons, List.map_nil, String.intercalate_singleton,
      String.toList_append, Sql.toList_quoteLiteral plain]
    simp
  have stripped : bare (Sql.callProcedure "DOLT_CHECKOUT" [name]).toList =
      "CALL DOLT_CHECKOUT(".toList ++ ('\'' :: (name.toList ++ ['\''])) ++ [')'] := by
    rw [text, bare_of_ends (by decide) (by decide) (by decide)]
    simp
  have other : forall word : String, "CALL DOLT_CHECKOUT(".toList.isPrefixOf word.toList = false ->
      String.ofList (("CALL DOLT_CHECKOUT(".toList ++ ('\'' :: (name.toList ++ ['\''])) ++
        [')']).map Char.toUpper) ≠ word := by
    intro word differs
    rw [List.append_assoc, List.map_append]
    exact ofList_ne_of_beginning differs
  have noUse : afterCapitals? "USE "
      ("CALL DOLT_CHECKOUT(".toList ++ ('\'' :: (name.toList ++ ['\''])) ++ [')']) = none := by
    simp [afterCapitals?, after?]
  simp only [Control.read, stripped]
  rw [if_neg, if_neg (other _ (by decide)), if_neg (other _ (by decide)), noUse, List.append_assoc,
    afterCapitals?_append (by decide)]
  · simp only [List.dropLast_concat, unquote_of_plain (Or.inr rfl)
      (Name.Kind.ne_nil_of_accepts accepted) (unquoted_of_accepts accepted)]
  · rintro (start | begin)
    · exact other _ (by decide) start
    · exact other _ (by decide) begin

end Scripted
end ScopedSql
