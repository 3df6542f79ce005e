import ScopedSql.Proofs.Sql.Keyword
import ScopedSql.Proofs.Sql.Tokens

namespace ScopedSql
namespace Sql

/-!
# Statements of a batch

A text may hold several statements, one after the other.  A semicolon ends one
unless it stands in a string, in a quoted name or in a comment.  Servers differ in
what they take for a comment and in what a backslash means in a string, so both
are left open here.

The kind of a text is that of its first statement, as long as the server takes the
comments in front of it for comments as well.  Whatever is behind the first
semicolon has no part in it.
-/

/-! ## Pieces of a text -/

/-- How a server reads a text. -/
structure Dialect where
  /-- Does a backslash in a string take the next character with it? -/
  escapes : Bool
  /-- Does the mark at the front of a text open a comment? -/
  comments : List Char -> Bool

/-- The text after a comment, if one is at the front.  A block comment without an end takes up the
rest. -/
def afterComment : List Char -> Option (List Char)
  | '-' :: '-' :: rest => some (afterLine rest)
  | '#' :: rest => some (afterLine rest)
  | '/' :: '*' :: rest => some ((afterBlockComment rest).getD [])
  | _ => none

/-- The text after a closing quote.  What is never closed takes up the rest.  A doubled quote
closes and opens again. -/
def afterQuote (escapes : Bool) (quote : Char) : List Char -> List Char
  | [] => []
  | [_] => []
  | c :: d :: rest =>
    if c = quote then d :: rest
    else if escapes && c = '\\' then afterQuote escapes quote rest
    else afterQuote escapes quote (d :: rest)

theorem afterLine_suffix (cs : List Char) : afterLine cs <:+ cs := by
  fun_induction afterLine cs with
  | case1 => exact List.suffix_rfl
  | case2 => exact List.suffix_cons _ _
  | case3 c rest _ inductionHypothesis => exact List.suffix_cons_iff.mpr (Or.inr inductionHypothesis)

theorem afterQuote_suffix (escapes : Bool) (quote : Char) (cs : List Char) :
    afterQuote escapes quote cs <:+ cs := by
  fun_induction afterQuote escapes quote cs with
  | case1 => exact List.suffix_rfl
  | case2 => exact List.nil_suffix
  | case3 => exact List.suffix_cons _ _
  | case4 c d rest _ _ inductionHypothesis =>
      exact inductionHypothesis.trans ((List.suffix_cons _ _).trans (List.suffix_cons _ _))
  | case5 c d rest _ _ inductionHypothesis =>
      exact inductionHypothesis.trans (List.suffix_cons _ _)

theorem afterComment_suffix {c : Char} {rest after : List Char}
    (found : afterComment (c :: rest) = some after) : after <:+ rest := by
  unfold afterComment at found
  split at found
  · rename_i line mark
    cases mark
    cases found
    exact (afterLine_suffix line).trans (List.suffix_cons _ _)
  · rename_i mark
    cases mark
    cases found
    exact afterLine_suffix rest
  · rename_i block mark
    cases mark
    cases found
    cases closed : afterBlockComment block with
    | none => exact List.nil_suffix
    | some later =>
        rcases exists_body_of_afterBlockComment closed with ⟨body, _, rfl⟩
        exact ⟨'*' :: (body ++ ['*', '/']), by simp⟩
  · cases found

namespace Dialect

/-- Every mark opens a comment. -/
def plain : Dialect := ⟨true, fun _ => true⟩

/-- Dashes open a comment only in front of white space, and some block comments hold code. -/
def mysql : Dialect where
  escapes := true
  comments
    | '-' :: '-' :: rest => rest.head?.all isSpace
    | '/' :: '*' :: '!' :: _ => false
    | _ => true

/-- The text after a comment that the dialect knows. -/
def afterComment (dialect : Dialect) (cs : List Char) : Option (List Char) :=
  if dialect.comments cs then Sql.afterComment cs else none

/-- What follows the first piece of a text: a string, a quoted name, a comment or one character. -/
def afterPiece (dialect : Dialect) (c : Char) (rest : List Char) : List Char :=
  if c = '\'' ∨ c = '"' then afterQuote dialect.escapes c rest
  else if c = '\x60' then afterQuote false c rest
  else (dialect.afterComment (c :: rest)).getD rest

theorem afterPiece_suffix (dialect : Dialect) (c : Char) (rest : List Char) :
    dialect.afterPiece c rest <:+ rest := by
  unfold afterPiece
  split
  · exact afterQuote_suffix _ _ _
  split
  · exact afterQuote_suffix _ _ _
  unfold afterComment
  split
  · cases found : Sql.afterComment (c :: rest) with
    | none => exact List.suffix_rfl
    | some after => exact afterComment_suffix found
  · exact List.suffix_rfl

/-! ## Statements -/

/-- The statements of a text, without the semicolons between them. -/
def statements (dialect : Dialect) : List Char -> List (List Char)
  | [] => [[]]
  | c :: rest =>
    if c = ';' then [] :: dialect.statements rest
    else
      let after := dialect.afterPiece c rest
      let piece := c :: rest.take (rest.length - after.length)
      (dialect.statements after).modifyHead (fun statement => piece ++ statement)
termination_by cs => cs.length
decreasing_by
  · exact Nat.lt_succ_self _
  · exact Nat.lt_succ_of_le (dialect.afterPiece_suffix c rest).length_le

/-- Nothing but white space and comments. -/
def isEmpty (dialect : Dialect) : List Char -> Bool
  | [] => true
  | c :: rest =>
    (Text.isBlank c || (dialect.afterComment (c :: rest)).isSome) &&
      dialect.isEmpty (dialect.afterPiece c rest)
termination_by cs => cs.length
decreasing_by exact Nat.lt_succ_of_le (dialect.afterPiece_suffix c rest).length_le

/-- Is every comment in the noise in front of a text one for the dialect too? -/
def agreesOn (dialect : Dialect) (cs : List Char) : Bool :=
  match _found : afterNoise cs with
  | none => true
  | some rest => ((Sql.afterComment cs).isNone || dialect.comments cs) && dialect.agreesOn rest
termination_by cs.length
decreasing_by exact length_afterNoise _found

variable {dialect : Dialect}

theorem statements_nil : dialect.statements [] = [[]] := by
  rw [statements]

/-- What was cut off a text and what was left of it make up the text. -/
theorem take_append_of_suffix {after rest : List Char} (suffix : after <:+ rest) :
    rest.take (rest.length - after.length) ++ after = rest := by
  have left := List.suffix_iff_eq_drop.mp suffix
  calc
    rest.take (rest.length - after.length) ++ after =
        rest.take (rest.length - after.length) ++ rest.drop (rest.length - after.length) :=
      congrArg (rest.take (rest.length - after.length) ++ ·) left
    _ = rest := List.take_append_drop _ _

/-- A piece belongs to the first statement. -/
theorem statements_piece {c : Char} {rest piece after : List Char} (other : c ≠ ';')
    (follows : dialect.afterPiece c rest = after) (split : c :: rest = piece ++ after) :
    dialect.statements (c :: rest) =
      (dialect.statements after).modifyHead (fun statement => piece ++ statement) := by
  have suffix : after <:+ rest := follows ▸ dialect.afterPiece_suffix c rest
  have same : c :: rest.take (rest.length - after.length) ++ after = piece ++ after := by
    rw [List.cons_append, take_append_of_suffix suffix, split]
  have taken := List.append_cancel_right same
  rw [statements, if_neg other, follows]
  simp only [taken]

theorem statements_ne_nil (cs : List Char) : dialect.statements cs ≠ [] := by
  fun_induction statements dialect cs with
  | case1 => exact List.cons_ne_nil _ _
  | case2 => exact List.cons_ne_nil _ _
  | case3 c rest _ after piece inductionHypothesis =>
      exact mt List.modifyHead_eq_nil_iff.mp inductionHypothesis

theorem intercalate_modifyHead (separator piece : List Char) {parts : List (List Char)}
    (filled : parts ≠ []) :
    separator.intercalate (parts.modifyHead (fun part => piece ++ part)) =
      piece ++ separator.intercalate parts := by
  cases parts with
  | nil => exact absurd rfl filled
  | cons first later =>
      cases later with
      | nil => simp
      | cons second later => simp [List.intercalate_cons_cons]

/-- The statements of a text make up the whole text. -/
theorem intercalate_statements (cs : List Char) :
    [';'].intercalate (dialect.statements cs) = cs := by
  fun_induction statements dialect cs with
  | case1 => rfl
  | case2 rest inductionHypothesis =>
      rcases List.exists_cons_of_ne_nil (dialect.statements_ne_nil rest) with ⟨first, later, split⟩
      rw [split] at inductionHypothesis ⊢
      rw [List.intercalate_cons_cons, inductionHypothesis]
      rfl
  | case3 c rest _ after piece inductionHypothesis =>
      have whole := take_append_of_suffix (dialect.afterPiece_suffix c rest)
      rw [intercalate_modifyHead _ _ (dialect.statements_ne_nil _), inductionHypothesis,
        List.cons_append, whole]

/-- Only the semicolons outside of strings and comments end statements. -/
example : plain.statements "SELECT ';\\';' -- ;\n; /* ; */ COMMIT".toList =
    ["SELECT ';\\';' -- ;\n".toList, " /* ; */ COMMIT".toList] := by
  decide +kernel

/-- The first statement is the whole text, or a semicolon ends it. -/
theorem exists_cut {cs first : List Char} {later : List (List Char)}
    (split : dialect.statements cs = first :: later) :
    cs = first ∨ exists more, cs = first ++ ';' :: more := by
  have whole := dialect.intercalate_statements cs
  rw [split] at whole
  cases later with
  | nil =>
      rw [List.intercalate_singleton] at whole
      exact Or.inl whole.symm
  | cons second later =>
      rw [List.intercalate_cons_cons, List.append_assoc] at whole
      exact Or.inr ⟨_, whole.symm⟩

/-! ## The first statement -/

theorem afterComment_eq_none {c : Char} (plain : c ≠ '-' ∧ c ≠ '#' ∧ c ≠ '/')
    (rest : List Char) : dialect.afterComment (c :: rest) = none := by
  have unmarked : Sql.afterComment (c :: rest) = none := by
    unfold Sql.afterComment
    split
    · rename_i mark
      exact absurd (List.cons.inj mark).1 plain.1
    · rename_i mark
      exact absurd (List.cons.inj mark).1 plain.2.1
    · rename_i mark
      exact absurd (List.cons.inj mark).1 plain.2.2
    · rfl
  rw [afterComment, unmarked, ite_self]

/-- The dialect passes over noise as the scan does. -/
theorem afterPiece_of_afterNoise {c : Char} {rest after : List Char}
    (found : afterNoise (c :: rest) = some after)
    (known : ((Sql.afterComment (c :: rest)).isNone || dialect.comments (c :: rest)) = true) :
    c ≠ ';' ∧ dialect.afterPiece c rest = after := by
  unfold afterNoise at found
  split at found
  · cases found
  · rename_i line mark
    cases mark
    have marked : dialect.comments ('-' :: '-' :: line) = true := known
    refine ⟨by decide, ?_⟩
    rw [afterPiece, if_neg (by decide), if_neg (by decide), afterComment, if_pos marked]
    exact Option.some.inj found
  · rename_i mark
    cases mark
    have marked : dialect.comments ('#' :: rest) = true := known
    refine ⟨by decide, ?_⟩
    rw [afterPiece, if_neg (by decide), if_neg (by decide), afterComment, if_pos marked]
    exact Option.some.inj found
  · rename_i block mark
    cases mark
    have marked : dialect.comments ('/' :: '*' :: block) = true := known
    refine ⟨by decide, ?_⟩
    rw [afterPiece, if_neg (by decide), if_neg (by decide), afterComment, if_pos marked,
      Sql.afterComment, found]
    rfl
  · rename_i mark
    cases mark
    refine ⟨by decide, ?_⟩
    rw [afterPiece, if_neg (by decide), if_neg (by decide), afterComment_eq_none (by decide)]
    exact Option.some.inj found
  · rename_i mark
    cases mark
    split at found
    · rename_i blank
      have dark : forall d, Text.isBlank d = false -> c ≠ d := by
        rintro d dark rfl
        exact Bool.false_ne_true (dark.symm.trans blank)
      refine ⟨dark ';' rfl, ?_⟩
      rw [afterPiece, if_neg (not_or.mpr ⟨dark '\'' rfl, dark '"' rfl⟩), if_neg (dark '\x60' rfl),
        afterComment_eq_none ⟨dark '-' rfl, dark '#' rfl, dark '/' rfl⟩]
      exact Option.some.inj found
    · cases found

/-- The noise that the scan passes over belongs to the first statement. -/
theorem statements_of_afterNoise {cs front rest : List Char} (found : afterNoise cs = some rest)
    (known : ((Sql.afterComment cs).isNone || dialect.comments cs) = true)
    (whole : cs = front ++ rest) :
    dialect.statements cs =
      (dialect.statements rest).modifyHead (fun statement => front ++ statement) := by
  cases cs with
  | nil => cases found
  | cons c tail =>
      rcases afterPiece_of_afterNoise found known with ⟨other, follows⟩
      exact statements_piece other follows whole

theorem agreesOn_of_some {cs rest : List Char} (found : afterNoise cs = some rest) :
    dialect.agreesOn cs =
      (((Sql.afterComment cs).isNone || dialect.comments cs) && dialect.agreesOn rest) := by
  rw [agreesOn]
  split
  · rename_i missing
    cases found.symm.trans missing
  · rename_i found'
    cases found.symm.trans found'
    rfl

end Dialect

/-- No noise at the front of a text, no noise at the front of its beginnings. -/
theorem afterNoise_eq_none_of_append {front more : List Char}
    (missing : afterNoise (front ++ more) = none) : afterNoise front = none := by
  cases found : afterNoise front with
  | none => rfl
  | some rest =>
      exfalso
      rcases exists_piece_of_afterNoise found with ⟨piece, one, rfl⟩ | ⟨unended, rfl⟩
      · rw [List.append_assoc, one.afterNoise_append] at missing
        cases missing
      · cases unended <;> cases missing

theorem letters_semicolon (front more : List Char) :
    letters (front ++ ';' :: more) = letters front := by
  have ended : letters (';' :: more) = [] := List.takeWhile_cons_of_neg (by decide)
  rw [letters, List.takeWhile_append]
  split
  · rename_i whole
    have same : letters front = front := (List.takeWhile_prefix _).eq_of_length whole
    rw [same, ← letters, ended, List.append_nil]
  · rfl

namespace Dialect

/-- The letters behind the noise are those of the first statement. -/
theorem letters_of_first {dialect : Dialect} {cs first : List Char} {later : List (List Char)}
    (agrees : dialect.agreesOn cs = true) (split : dialect.statements cs = first :: later) :
    letters (afterLeadingNoise first) = letters (afterLeadingNoise cs) := by
  fun_induction afterLeadingNoise cs generalizing first later with
  | case1 cs missing =>
      rcases dialect.exists_cut split with rfl | ⟨more, rfl⟩
      · rw [afterLeadingNoise_of_none missing]
      · rw [afterLeadingNoise_of_none (afterNoise_eq_none_of_append missing), letters_semicolon]
  | case2 cs rest found inductionHypothesis =>
      rw [agreesOn_of_some found, Bool.and_eq_true] at agrees
      rcases agrees with ⟨known, agrees⟩
      rcases List.exists_cons_of_ne_nil (dialect.statements_ne_nil rest)
        with ⟨remaining, others, next⟩
      rw [← inductionHypothesis agrees next]
      rcases exists_piece_of_afterNoise found with ⟨piece, one, whole⟩ | ⟨unended, rfl⟩
      · rw [statements_of_afterNoise found known whole, next, List.modifyHead_cons] at split
        cases split
        rw [(Noise.piece one).afterLeadingNoise_append]
      · -- a comment without an end is all there is
        rw [statements_of_afterNoise found known (List.append_nil cs).symm, next,
          List.modifyHead_cons] at split
        rw [statements_nil] at next
        cases next
        cases split
        rw [List.append_nil, afterLeadingNoise_of_some unended.afterNoise]

/-- The kind of a text is that of its first statement. -/
theorem byKeyword_of_first {dialect : Dialect} {sql : String} {first : List Char}
    {later : List (List Char)} (agrees : dialect.agreesOn sql.toList = true)
    (split : dialect.statements sql.toList = first :: later) :
    Classifier.byKeyword (String.ofList first) = Classifier.byKeyword sql := by
  apply byKeyword_congr
  rw [firstKeyword_eq, firstKeyword_eq, String.toList_ofList, letters_of_first agrees split]

/-- A dialect in which every mark opens a comment agrees on every text. -/
theorem agreesOn_of_comments {dialect : Dialect} (all : forall cs, dialect.comments cs = true)
    (cs : List Char) : dialect.agreesOn cs = true := by
  fun_induction agreesOn dialect cs with
  | case1 => rfl
  | case2 cs rest found inductionHypothesis =>
      rw [inductionHypothesis, all, Bool.or_true, Bool.and_true]

/-! ## Texts that are let through as reads -/

/-- The first statement of a text is a read.  So all its statements are reads, apart from empty
ones, if nothing but empty ones follows. -/
structure Admits (dialect : Dialect) (sql : String) : Prop where
  first : exists first later, dialect.statements sql.toList = first :: later ∧
    Classifier.byKeyword (String.ofList first) = .ok .read
  lone : (forall later, later ∈ (dialect.statements sql.toList).tail ->
      dialect.isEmpty later = true) ->
    forall statement, statement ∈ dialect.statements sql.toList ->
      dialect.isEmpty statement = false ->
      Classifier.byKeyword (String.ofList statement) = .ok .read

/-- A text is classified as a read exactly if its first statement is one. -/
theorem admits_iff {dialect : Dialect} {sql : String}
    (agrees : dialect.agreesOn sql.toList = true) :
    dialect.Admits sql ↔ Classifier.byKeyword sql = .ok .read := by
  rcases List.exists_cons_of_ne_nil (dialect.statements_ne_nil sql.toList)
    with ⟨first, later, split⟩
  have kind := byKeyword_of_first agrees split
  constructor
  · intro admits
    rcases admits.first with ⟨first', later', split', reads⟩
    cases split.symm.trans split'
    exact kind.symm.trans reads
  · intro reads
    refine ⟨⟨first, later, split, kind.trans reads⟩, ?_⟩
    rw [split]
    intro empty statement member filled
    rcases List.mem_cons.mp member with rfl | behind
    · exact kind.trans reads
    · exact absurd (filled.symm.trans (empty statement behind)) Bool.false_ne_true

end Dialect
end Sql
end ScopedSql
