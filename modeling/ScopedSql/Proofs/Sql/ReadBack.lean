import ScopedSql.Proofs.Sql.Tokens

namespace ScopedSql
namespace Sql

/-!
# Texts and names read back

Where a text or a name is to be read, a server knows from the first character how
to go on, and stops at the closing quote.  So the texts that were quoted for a
call are read back one by one, and what is in them cannot make them longer,
shorter or more.
-/

/-- A text between apostrophes, and what follows it. -/
def readText : List Char -> Option (String × List Char)
  | '\'' :: rest =>
    (readQuoted '\'' true rest).map (fun found => (String.ofList found.1, found.2))
  | _ => none

/-- A name between backticks, and what follows it. -/
def readName : List Char -> Option (String × List Char)
  | '\x60' :: rest =>
    (readQuoted '\x60' false rest).map (fun found => (String.ofList found.1, found.2))
  | _ => none

theorem length_readText {cs rest : List Char} {text : String}
    (read : readText cs = some (text, rest)) : rest.length < cs.length := by
  unfold readText at read
  split at read
  · rcases Option.map_eq_some_iff.mp read with ⟨⟨_, _⟩, found, made⟩
    cases made
    exact Nat.lt_succ_of_lt (length_readQuoted found)
  · cases read

/-- One text or several with commas between them, and what follows the last. -/
def readTexts (cs : List Char) : Option (List String × List Char) :=
  match _read : readText (cs.dropWhile isSpace) with
  | none => none
  | some (text, rest) =>
    match _next : rest.dropWhile isSpace with
    | ',' :: more => (readTexts more).map (fun found => (text :: found.1, found.2))
    | _ => some ([text], rest)
termination_by cs.length
decreasing_by
  have first := length_readText _read
  have before := (List.dropWhile_suffix isSpace (l := cs)).length_le
  have after := (List.dropWhile_suffix isSpace (l := rest)).length_le
  rw [_next, List.length_cons] at after
  omega

/-- The texts of a list that ends at a closing parenthesis, and what follows the last.  There may
be none. -/
def readArguments (cs : List Char) : Option (List String × List Char) :=
  if (cs.dropWhile isSpace).head? = some ')' then some ([], cs) else readTexts cs

/-! ## One text, one name -/

theorem readText_quoteLiteral (text : String) {rest : List Char}
    (apart : rest.head? ≠ some '\'') :
    readText ((quoteLiteral text).toList ++ rest) = some (text, rest) := by
  have read := readQuoted_flatMap readQuoted_literalChar apart text.toList
  rw [quoteLiteral_append, readText, read, Option.map_some, String.ofList_toList]

theorem readName_quoteIdentifier (name : String) {rest : List Char}
    (apart : rest.head? ≠ some '\x60') :
    readName ((quoteIdentifier name).toList ++ rest) = some (name, rest) := by
  have read := readQuoted_flatMap readQuoted_identifierChar apart name.toList
  rw [quoteIdentifier_append, readName, read, Option.map_some, String.ofList_toList]

/-! ## Lists of texts -/

section Steps

variable {cs rest : List Char} {text : String}
  (read : readText (cs.dropWhile isSpace) = some (text, rest))
include read

/-- A comma after a text promises another one. -/
theorem readTexts_of_comma {more : List Char} (next : rest.dropWhile isSpace = ',' :: more) :
    readTexts cs = (readTexts more).map (fun found => (text :: found.1, found.2)) := by
  rw [readTexts]
  split
  · rename_i missing
    cases read.symm.trans missing
  · rename_i read'
    cases read.symm.trans read'
    split
    · rename_i next'
      cases next.symm.trans next'
      rfl
    · rename_i other
      exact absurd next (other more)

/-- A text without a comma after it is the last. -/
theorem readTexts_of_last (last : (rest.dropWhile isSpace).head? ≠ some ',') :
    readTexts cs = some ([text], rest) := by
  rw [readTexts]
  split
  · rename_i missing
    cases read.symm.trans missing
  · rename_i read'
    cases read.symm.trans read'
    split
    · rename_i next
      rw [next] at last
      exact absurd rfl last
    · rfl

end Steps

/-- What is written for texts, with a comma and a blank between them. -/
def literals (texts : List String) : List Char :=
  (String.intercalate ", " (texts.map quoteLiteral)).toList

theorem literals_singleton (text : String) : literals [text] = (quoteLiteral text).toList := by
  rw [literals, List.map_singleton, String.intercalate_singleton]

theorem literals_cons_cons (text next : String) (texts : List String) :
    literals (text :: next :: texts) =
      (quoteLiteral text).toList ++ ',' :: ' ' :: literals (next :: texts) := by
  have comma : ", ".toList = [',', ' '] := rfl
  simp only [literals, String.toList_intercalate, List.map_cons, List.intercalate_cons_cons, comma,
    List.append_assoc, List.cons_append, List.nil_append]

/-- The first thing in a list is a quote. -/
theorem literals_quote (text : String) (texts : List String) :
    exists later, literals (text :: texts) = '\'' :: later := by
  cases texts with
  | nil =>
      rw [literals_singleton, quoteLiteral, String.toList_ofList]
      exact ⟨_, rfl⟩
  | cons next texts =>
      rw [literals_cons_cons, quoteLiteral_append]
      exact ⟨_, rfl⟩

theorem dropWhile_literals (text : String) (texts : List String) (rest : List Char) :
    (literals (text :: texts) ++ rest).dropWhile isSpace = literals (text :: texts) ++ rest := by
  rcases literals_quote text texts with ⟨later, quote⟩
  rw [quote, List.cons_append]
  exact List.dropWhile_cons_of_neg (by decide)

/-- The texts are read one after another.  The blank after a comma is passed over. -/
theorem readTexts_literals (text : String) (texts : List String) (rest : List Char)
    {cs : List Char} (start : cs.dropWhile isSpace = literals (text :: texts) ++ ')' :: rest) :
    readTexts cs = some (text :: texts, ')' :: rest) := by
  -- The texts after a comma are read from the blank on, so that the input is not the list itself.
  induction texts generalizing text cs with
  | nil =>
      have read : readText (cs.dropWhile isSpace) = some (text, ')' :: rest) := by
        rw [start, literals_singleton]
        exact readText_quoteLiteral text (by simp)
      have last : ((')' :: rest).dropWhile isSpace).head? ≠ some ',' := by
        rw [List.dropWhile_cons_of_neg (by decide), List.head?_cons]
        decide
      exact readTexts_of_last read last
  | cons next texts inductionHypothesis =>
      have read : readText (cs.dropWhile isSpace) =
          some (text, ',' :: ' ' :: (literals (next :: texts) ++ ')' :: rest)) := by
        rw [start, literals_cons_cons, List.append_assoc, List.cons_append, List.cons_append]
        exact readText_quoteLiteral text (by simp)
      have blank : (' ' :: (literals (next :: texts) ++ ')' :: rest)).dropWhile isSpace =
          literals (next :: texts) ++ ')' :: rest := by
        rw [List.dropWhile_cons_of_pos (by decide), dropWhile_literals]
      rw [readTexts_of_comma read rfl, inductionHypothesis next blank]
      rfl

theorem readArguments_literals (texts : List String) (rest : List Char) :
    readArguments (literals texts ++ ')' :: rest) = some (texts, ')' :: rest) := by
  cases texts with
  | nil => rfl
  | cons text texts =>
      rcases literals_quote text texts with ⟨later, quote⟩
      have start := dropWhile_literals text texts (')' :: rest)
      have filled :
          ¬ ((literals (text :: texts) ++ ')' :: rest).dropWhile isSpace).head? = some ')' := by
        rw [start, quote, List.cons_append, List.head?_cons]
        decide
      rw [readArguments, if_neg filled, readTexts_literals text texts rest start]

/-! ## Calls -/

/-- Up to its arguments a call is the same for all texts. -/
theorem toList_callProcedure (procedure : String) (texts : List String) :
    (callProcedure procedure texts).toList =
      ("CALL " ++ procedure ++ "(").toList ++ (literals texts ++ [')', ';']) := by
  simp only [callProcedure, literals, String.toList_append, List.append_assoc]
  rfl

/-- The arguments of a call are read back as the texts that were given, and a quoted name as the
name. -/
theorem read_quoted (procedure : String) (texts : List String) (name : String) :
    (exists arguments,
      (callProcedure procedure texts).toList =
          ("CALL " ++ procedure ++ "(").toList ++ arguments ∧
        readArguments arguments = some (texts, [')', ';'])) ∧
      forall rest, rest.head? ≠ some '\x60' ->
        readName ((quoteIdentifier name).toList ++ rest) = some (name, rest) := by
  constructor
  · exact ⟨_, toList_callProcedure procedure texts, readArguments_literals texts [';']⟩
  · intro rest apart
    exact readName_quoteIdentifier name apart

/-- Texts that look like the rest of a call, or end in a backslash, are read back. -/
theorem read_quoted_of_hostile_texts :
    let texts := ["it's \\", "'); DROP TABLE t; --", "", "\x00\\0"]
    let arguments := "'it''s \\\\', '''); DROP TABLE t; --', '', '\\0\\\\0');".toList
    readArguments arguments = some (texts, [')', ';']) ∧
      readName "`a``; b` (c)".toList = some ("a`; b", " (c)".toList) := by
  intro texts arguments
  rcases read_quoted "DOLT_COMMIT" texts "a`; b" with ⟨⟨given, called, read⟩, named⟩
  have spelled : (callProcedure "DOLT_COMMIT" texts).toList =
      ("CALL " ++ "DOLT_COMMIT" ++ "(").toList ++ arguments := by decide +kernel
  have same : given = arguments := List.append_cancel_left (called.symm.trans spelled)
  exact ⟨same ▸ read, named _ (by decide)⟩

end Sql
end ScopedSql
