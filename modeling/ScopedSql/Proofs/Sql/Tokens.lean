import ScopedSql.Name.Grammar
import ScopedSql.Sql.Quote
import ScopedSql.Sql.Statement

namespace ScopedSql
namespace Sql

/-!
# How a server splits a statement

A statement is split into tokens by the rules that MySQL follows unless it is told
otherwise.  A string stands between apostrophes or between double quotes; inside,
the closing quote may be doubled and a backslash takes the next character with
it.  A name may stand between backticks; inside, only the backtick is doubled.
Comments and white space separate tokens and are none.  A comment that holds
code is not read here.
-/

/-- A token of a statement. -/
inductive Token
  /-- A keyword, a name without quotes or a number. -/
  | word (text : String)
  /-- A string, with what it holds. -/
  | text (content : String)
  /-- A name in backticks, with what it holds. -/
  | name (content : String)
  | symbol (c : Char)
  deriving DecidableEq, Repr

/-! ## Splitting -/

/-- The characters of words: ASCII letters and digits, two signs, and all that is not ASCII. -/
def isTokenChar (c : Char) : Bool :=
  Name.isWordChar c || c = '$' || 128 ≤ c.toNat

/-- The characters that are passed over between tokens. -/
def isSpace (c : Char) : Bool :=
  c = ' ' || (9 ≤ c.toNat && c.toNat ≤ 13)

/-- What a backslash and a character stand for inside a string.  Before the signs of a pattern
the backslash stays. -/
def escaped (c : Char) : List Char :=
  match c with
  | '0' => ['\x00']
  | 'b' => ['\x08']
  | 'n' => ['\n']
  | 'r' => ['\r']
  | 't' => ['\t']
  | 'Z' => ['\x1a']
  | '%' => ['\\', '%']
  | '_' => ['\\', '_']
  | other => [other]

/-- Put characters in front of what was read. -/
def inFront (cs : List Char) (found : List Char × List Char) : List Char × List Char :=
  (cs ++ found.1, found.2)

/-- What stands before a closing quote, and what follows it. -/
def readQuoted (quote : Char) (escapes : Bool) : List Char -> Option (List Char × List Char)
  | [] => none
  | [c] => if c = quote then some ([], []) else none
  | c :: d :: rest =>
    if c = quote then
      if d = quote then (readQuoted quote escapes rest).map (inFront [quote])
      else some ([], d :: rest)
    else if escapes && c = '\\' then (readQuoted quote escapes rest).map (inFront (escaped d))
    else (readQuoted quote escapes (d :: rest)).map (inFront [c])

/-- A token that is quoted, and what follows it. -/
def quotedToken (make : String -> Token) (quote : Char) (escapes : Bool) (cs : List Char) :
    Option (Option Token × List Char) :=
  (readQuoted quote escapes cs).map (fun found => (some (make (String.ofList found.1)), found.2))

/-- The first piece of a text that is not empty, which may be no token, and what follows it. -/
def firstPiece : List Char -> Option (Option Token × List Char)
  | [] => none
  | '\'' :: rest => quotedToken .text '\'' true rest
  | '"' :: rest => quotedToken .text '"' true rest
  | '\x60' :: rest => quotedToken .name '\x60' false rest
  | '#' :: rest => some (none, afterLine rest)
  | '/' :: '*' :: '!' :: _ => none
  | '/' :: '*' :: rest => (afterBlockComment rest).map (fun after => (none, after))
  | '-' :: '-' :: rest =>
    if rest.head?.all isSpace then some (none, afterLine rest)
    else some (some (.symbol '-'), '-' :: rest)
  | c :: rest =>
    if isSpace c then some (none, rest)
    else if isTokenChar c then
      some (some (.word (String.ofList (c :: rest.takeWhile isTokenChar))),
        rest.dropWhile isTokenChar)
    else some (some (.symbol c), rest)

/-- A quoted piece takes up at least its closing quote. -/
theorem length_readQuoted {quote : Char} {escapes : Bool} {cs content rest : List Char}
    (read : readQuoted quote escapes cs = some (content, rest)) : rest.length < cs.length := by
  have longer : forall {cs before content rest : List Char},
      (forall {content rest : List Char}, readQuoted quote escapes cs = some (content, rest) ->
        rest.length < cs.length) ->
      (readQuoted quote escapes cs).map (inFront before) = some (content, rest) ->
      rest.length < cs.length := by
    intro cs before content rest inductionHypothesis read
    rcases Option.map_eq_some_iff.mp read with ⟨⟨_, _⟩, found, made⟩
    cases made
    exact inductionHypothesis found
  fun_induction readQuoted quote escapes cs generalizing content rest with
  | case1 => cases read
  | case2 =>
      cases read
      simp
  | case3 => cases read
  | case4 after inductionHypothesis =>
      have shorter := longer inductionHypothesis read
      simp only [List.length_cons]
      omega
  | case5 =>
      cases read
      simp
  | case6 c d after _ _ inductionHypothesis =>
      have shorter := longer inductionHypothesis read
      simp only [List.length_cons]
      omega
  | case7 c d after _ _ inductionHypothesis =>
      have shorter := longer inductionHypothesis read
      simp only [List.length_cons] at shorter ⊢
      omega

theorem length_quotedToken {make : String -> Token} {quote : Char} {escapes : Bool}
    {cs rest : List Char} {token? : Option Token}
    (read : quotedToken make quote escapes cs = some (token?, rest)) :
    rest.length < cs.length := by
  rcases Option.map_eq_some_iff.mp read with ⟨⟨_, _⟩, found, made⟩
  cases made
  exact length_readQuoted found

/-- Every piece has at least one character. -/
theorem length_firstPiece {cs rest : List Char} {token? : Option Token}
    (found : firstPiece cs = some (token?, rest)) : rest.length < cs.length := by
  have quoted : forall {make quote escapes} {c : Char} {cs : List Char},
      quotedToken make quote escapes cs = some (token?, rest) ->
      rest.length < (c :: cs).length :=
    fun read => Nat.lt_succ_of_lt (length_quotedToken read)
  unfold firstPiece at found
  split at found
  · cases found
  · exact quoted found
  · exact quoted found
  · exact quoted found
  · cases found
    exact Nat.lt_succ_of_le (length_afterLine _)
  · cases found
  · rcases Option.map_eq_some_iff.mp found with ⟨after, closed, made⟩
    cases made
    have shorter := length_afterBlockComment closed
    simp only [List.length_cons]
    omega
  · split at found
    · cases found
      exact Nat.lt_succ_of_le (Nat.le_succ_of_le (length_afterLine _))
    · cases found
      exact Nat.lt_succ_self _
  · split at found
    · cases found
      exact Nat.lt_succ_self _
    · split at found
      · cases found
        exact Nat.lt_succ_of_le (List.dropWhile_suffix _).length_le
      · cases found
        exact Nat.lt_succ_self _

/-- The tokens of a text, if it can be read. -/
def tokens (cs : List Char) : Option (List Token) :=
  if cs.isEmpty then some []
  else
    match _found : firstPiece cs with
    | none => none
    | some (token?, rest) => (tokens rest).map (fun later => token?.toList ++ later)
termination_by cs.length
decreasing_by exact length_firstPiece _found

/-- The tokens of a text are its first piece and the tokens of what follows. -/
theorem tokens_of_firstPiece {cs rest : List Char} {token? : Option Token}
    (found : firstPiece cs = some (token?, rest)) :
    tokens cs = (tokens rest).map (fun later => token?.toList ++ later) := by
  have filled : cs.isEmpty = false := by
    cases cs with
    | nil => cases found
    | cons c cs => rfl
  rw [tokens, filled, if_neg Bool.false_ne_true]
  split
  · rename_i missing
    cases found.symm.trans missing
  · rename_i found'
    cases found.symm.trans found'
    rfl

theorem tokens_nil : tokens [] = some [] := by
  rw [tokens]
  rfl

/-! ## Pieces -/

/-- A text that can be a word. -/
abbrev IsWord (word : String) : Prop :=
  word ≠ "" ∧ word.toList.all isTokenChar = true

/-- The signs of statements that are tokens by themselves. -/
def marks : List Char := ['(', ')', ',', ';', '*']

/-- What follows does not belong to a word or a quoted piece that ends here. -/
def Breaks (rest : List Char) : Prop :=
  forall c, rest.head? = some c -> c = ' ' ∨ c ∈ marks

theorem breaks_space (rest : List Char) : Breaks (' ' :: rest) := by
  rintro _ ⟨⟩
  exact Or.inl rfl

theorem breaks_mark {c : Char} (known : c ∈ marks) (rest : List Char) : Breaks (c :: rest) := by
  rintro _ ⟨⟩
  exact Or.inr known

/-- No character of words and no quote is a break. -/
theorem Breaks.ne {c : Char} {rest : List Char} (breaks : Breaks rest)
    (inside : isTokenChar c = true ∨ c = '\'' ∨ c = '\x60') : rest.head? ≠ some c := by
  intro next
  rcases breaks c next with rfl | mark
  · revert inside
    decide
  · simp only [marks, List.mem_cons, List.not_mem_nil, or_false] at mark
    rcases mark with rfl | rfl | rfl | rfl | rfl
    all_goals
      revert inside
      decide

theorem tokens_space (rest : List Char) : tokens (' ' :: rest) = tokens rest := by
  have piece : firstPiece (' ' :: rest) = some (none, rest) := rfl
  rw [tokens_of_firstPiece piece]
  cases tokens rest <;> rfl

theorem tokens_mark {c : Char} (known : c ∈ marks) (rest : List Char) :
    tokens (c :: rest) = (tokens rest).map (fun later => .symbol c :: later) := by
  have piece : firstPiece (c :: rest) = some (some (.symbol c), rest) := by
    simp only [marks, List.mem_cons, List.not_mem_nil, or_false] at known
    rcases known with rfl | rfl | rfl | rfl | rfl <;> rfl
  rw [tokens_of_firstPiece piece]
  rfl

/-- No character of words is passed over. -/
theorem isSpace_eq_false_of_isTokenChar {c : Char} (inside : isTokenChar c = true) :
    isSpace c = false := by
  simp only [isTokenChar, Bool.or_eq_true, decide_eq_true_eq] at inside
  rcases inside with (word | rfl) | high
  · have dark := Name.isBlank_eq_false_of_isWordChar word
    cases passed : isSpace c with
    | false => rfl
    | true =>
        have blank : Text.isBlank c = true := by
          simp only [isSpace, Bool.or_eq_true, Bool.and_eq_true, decide_eq_true_eq] at passed
          rcases passed with rfl | ⟨low, up⟩
          · rfl
          · simp [Text.isBlank, low, up]
        exact absurd (dark.symm.trans blank) Bool.false_ne_true
  · rfl
  · simp only [isSpace, Bool.or_eq_false_iff, Bool.and_eq_false_iff, decide_eq_false_iff_not]
    constructor
    · rintro rfl
      exact absurd high (by decide)
    · omega

theorem tokens_semicolon : tokens [';'] = some [.symbol ';'] := by
  rw [tokens_mark (by decide), tokens_nil]
  rfl

/-- A word is a token if no more of it follows. -/
theorem tokens_word {word : String} (sound : IsWord word) {rest : List Char}
    (breaks : Breaks rest) :
    tokens (word.toList ++ rest) = (tokens rest).map (fun later => .word word :: later) := by
  rcases sound with ⟨filled, chars⟩
  have ends : rest.takeWhile isTokenChar = [] ∧ rest.dropWhile isTokenChar = rest := by
    cases rest with
    | nil => exact ⟨rfl, rfl⟩
    | cons c rest =>
        have other : ¬ isTokenChar c = true := fun inside => breaks.ne (Or.inl inside) rfl
        exact ⟨List.takeWhile_cons_of_neg other, List.dropWhile_cons_of_neg other⟩
  have piece : firstPiece (word.toList ++ rest) = some (some (.word word), rest) := by
    cases text : word.toList with
    | nil => exact absurd (String.toList_eq_nil_iff.mp text) filled
    | cons c cs =>
        rw [text, List.all_cons, Bool.and_eq_true, List.all_eq_true] at chars
        rcases chars with ⟨first, others⟩
        have same : String.ofList (c :: cs) = word := by rw [← text, String.ofList_toList]
        rw [List.cons_append]
        unfold firstPiece
        split
        · rename_i impossible
          cases impossible
        -- No character of words starts a quoted piece or a comment.
        iterate 7
          rename_i found
          rcases List.cons.inj found with ⟨rfl, _⟩
          exact absurd first (by decide)
        rename_i found
        rcases List.cons.inj found with ⟨rfl, rfl⟩
        rw [isSpace_eq_false_of_isTokenChar first, if_neg Bool.false_ne_true, if_pos first,
          List.takeWhile_append_of_pos others, List.dropWhile_append_of_pos others, ends.1, ends.2,
          List.append_nil, same]
  rw [tokens_of_firstPiece piece]
  rfl

/-! ## Quoted pieces -/

theorem readQuoted_close {quote : Char} {rest : List Char} (apart : rest.head? ≠ some quote)
    (escapes : Bool) : readQuoted quote escapes (quote :: rest) = some ([], rest) := by
  cases rest with
  | nil => rw [readQuoted, if_pos rfl]
  | cons c rest =>
      have other : c ≠ quote := fun same => apart (congrArg some same)
      rw [readQuoted, if_pos rfl, if_neg other]

theorem readQuoted_double (quote : Char) (escapes : Bool) (rest : List Char) :
    readQuoted quote escapes (quote :: quote :: rest) =
      (readQuoted quote escapes rest).map (inFront [quote]) := by
  rw [readQuoted, if_pos rfl, if_pos rfl]

theorem readQuoted_escaped {quote : Char} (other : '\\' ≠ quote) (c : Char) (rest : List Char) :
    readQuoted quote true ('\\' :: c :: rest) =
      (readQuoted quote true rest).map (inFront (escaped c)) := by
  rw [readQuoted, if_neg other, if_pos (by decide)]

theorem readQuoted_plain {quote c : Char} {escapes : Bool} (other : c ≠ quote)
    (plain : escapes = true -> c ≠ '\\') (rest : List Char) :
    readQuoted quote escapes (c :: rest) =
      (readQuoted quote escapes rest).map (inFront [c]) := by
  have kept : (escapes && decide (c = '\\')) = false := by
    cases escapes with
    | false => rfl
    | true => exact decide_eq_false (plain rfl)
  cases rest with
  | nil => simp [readQuoted, other]
  | cons d rest =>
      rw [readQuoted, if_neg other, kept, if_neg Bool.false_ne_true]

/-- What is written character by character is read back, if every character is. -/
theorem readQuoted_flatMap {quote : Char} {escapes : Bool} {write : Char -> List Char}
    (single : forall c rest, readQuoted quote escapes (write c ++ rest) =
      (readQuoted quote escapes rest).map (inFront [c]))
    {rest : List Char} (apart : rest.head? ≠ some quote) (cs : List Char) :
    readQuoted quote escapes (cs.flatMap write ++ quote :: rest) = some (cs, rest) := by
  induction cs with
  | nil => exact readQuoted_close apart escapes
  | cons c cs inductionHypothesis =>
      rw [List.flatMap_cons, List.append_assoc, single, inductionHypothesis]
      rfl

theorem readQuoted_literalChar (c : Char) (rest : List Char) :
    readQuoted '\'' true (literalChar c ++ rest) =
      (readQuoted '\'' true rest).map (inFront [c]) := by
  unfold literalChar
  split
  · rename_i backslash
    subst backslash
    exact readQuoted_escaped (by decide) '\\' rest
  · rename_i plain
    split
    · rename_i quote
      subst quote
      exact readQuoted_double '\'' true rest
    · rename_i other
      split
      · rename_i nul
        subst nul
        exact readQuoted_escaped (by decide) '0' rest
      · exact readQuoted_plain other (fun _ => plain) rest

theorem readQuoted_identifierChar (c : Char) (rest : List Char) :
    readQuoted '\x60' false (identifierChar c ++ rest) =
      (readQuoted '\x60' false rest).map (inFront [c]) := by
  unfold identifierChar
  split
  · rename_i quote
    subst quote
    exact readQuoted_double '\x60' false rest
  · rename_i other
    exact readQuoted_plain other (fun escapes : false = true => nomatch escapes) rest

theorem quoteLiteral_append (text : String) (rest : List Char) :
    (quoteLiteral text).toList ++ rest =
      '\'' :: (text.toList.flatMap literalChar ++ '\'' :: rest) := by
  rw [quoteLiteral, String.toList_ofList, List.append_assoc, List.cons_append,
    List.singleton_append]

theorem quoteIdentifier_append (name : String) (rest : List Char) :
    (quoteIdentifier name).toList ++ rest =
      '\x60' :: (name.toList.flatMap identifierChar ++ '\x60' :: rest) := by
  rw [quoteIdentifier, String.toList_ofList, List.append_assoc, List.cons_append,
    List.singleton_append]

/-- A literal is one token, which holds exactly the text that was quoted. -/
theorem tokens_quoteLiteral (text : String) {rest : List Char} (breaks : Breaks rest) :
    tokens ((quoteLiteral text).toList ++ rest) =
      (tokens rest).map (fun later => .text text :: later) := by
  have read := readQuoted_flatMap readQuoted_literalChar (breaks.ne (by simp)) text.toList
  have piece : firstPiece ((quoteLiteral text).toList ++ rest) =
      some (some (.text text), rest) := by
    rw [quoteLiteral_append, firstPiece, quotedToken, read, Option.map_some, String.ofList_toList]
  rw [tokens_of_firstPiece piece]
  rfl

/-- A quoted identifier is one token, which holds exactly the name that was quoted. -/
theorem tokens_quoteIdentifier (name : String) {rest : List Char} (breaks : Breaks rest) :
    tokens ((quoteIdentifier name).toList ++ rest) =
      (tokens rest).map (fun later => .name name :: later) := by
  have read := readQuoted_flatMap readQuoted_identifierChar (breaks.ne (by simp)) name.toList
  have piece : firstPiece ((quoteIdentifier name).toList ++ rest) =
      some (some (.name name), rest) := by
    rw [quoteIdentifier_append, firstPiece, quotedToken, read, Option.map_some,
      String.ofList_toList]
  rw [tokens_of_firstPiece piece]
  rfl

/-- A keyword and one name, which make up the end of a statement. -/
theorem tokens_keyword_name {keyword : String} (sound : IsWord keyword) (name : String) :
    tokens (keyword.toList ++ ' ' :: ((quoteIdentifier name).toList ++ [';'])) =
      some [.word keyword, .name name, .symbol ';'] := by
  rw [tokens_word sound (breaks_space _), tokens_space,
    tokens_quoteIdentifier name (breaks_mark (by decide) _), tokens_semicolon]
  rfl

/-- A function or a procedure, with texts as its arguments, at the end of a statement. -/
def applied (function : String) (texts : List String) : List Token :=
  .word function :: .symbol '(' ::
    ((texts.map Token.text).intersperse (.symbol ',') ++ [.symbol ')', .symbol ';'])

theorem tokens_literals (texts : List String) {rest : List Char} (breaks : Breaks rest) :
    tokens ((String.intercalate ", " (texts.map quoteLiteral)).toList ++ rest) =
      (tokens rest).map
        (fun later => (texts.map Token.text).intersperse (.symbol ',') ++ later) := by
  rw [String.toList_intercalate]
  -- The last text is followed by the rest, every other one by a comma; both are breaks.
  induction texts with
  | nil =>
      simp only [List.map_nil, List.intercalate_nil, List.nil_append, List.intersperse_nil]
      cases tokens rest <;> rfl
  | cons text texts inductionHypothesis =>
      cases texts with
      | nil =>
          simp only [List.map_cons, List.map_nil, List.intercalate_singleton]
          rw [tokens_quoteLiteral text breaks]
          rfl
      | cons next texts =>
          have comma : (", ".toList : List Char) = [',', ' '] := rfl
          simp only [comma, List.map_cons, List.intercalate_cons_cons, List.append_assoc,
            List.intersperse_cons_cons] at inductionHypothesis ⊢
          rw [List.cons_append, List.singleton_append,
            tokens_quoteLiteral text (breaks_mark (by decide) _), tokens_mark (by decide),
            tokens_space, inductionHypothesis]
          cases tokens rest <;> rfl

theorem tokens_applied {function : String} (sound : IsWord function) (texts : List String) :
    tokens (function.toList ++ '(' ::
      ((String.intercalate ", " (texts.map quoteLiteral)).toList ++ [')', ';'])) =
      some (applied function texts) := by
  rw [tokens_word sound (breaks_mark (by decide) _), tokens_mark (by decide),
    tokens_literals texts (breaks_mark (by decide) _), tokens_mark (by decide), tokens_semicolon]
  rfl

/-- A call is the same tokens for all texts in it, apart from the texts themselves. -/
theorem tokens_callProcedure {procedure : String} (sound : IsWord procedure)
    (texts : List String) :
    tokens (callProcedure procedure texts).toList =
      some (.word "CALL" :: applied procedure texts) := by
  have text : (callProcedure procedure texts).toList = "CALL".toList ++ ' ' ::
      (procedure.toList ++ '(' ::
        ((String.intercalate ", " (texts.map quoteLiteral)).toList ++ [')', ';'])) := by
    simp [callProcedure]
  rw [text, tokens_word (by decide) (breaks_space _), tokens_space, tokens_applied sound]
  rfl

/-- Comments and escapes are read as a server reads them. -/
example : tokens "SELECT 'it''s' /* \"x */, `a``b`; -- done".toList =
    some [.word "SELECT", .text "it's", .symbol ',', .name "a`b", .symbol ';'] := by
  decide +kernel

end Sql
end ScopedSql
