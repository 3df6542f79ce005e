import ScopedSql.Sql.Statement

namespace ScopedSql
namespace Sql

/-!
# Noise in front of a statement

Noise comes in pieces, and a scan from the left passes over them one by one: what
a piece is can be told from its beginning, and where it ends does not depend on
what follows.  Only a line comment in the last line has no end of its own.  So
the scan stops where the longest noise ends, wherever its pieces are cut.
-/

/-! ## Pieces -/

/-- One complete piece of noise.  A block comment ends at the first mark that closes one. -/
inductive NoisePiece : List Char -> Prop
  | blank {c : Char} (blank : Text.isBlank c = true) : NoisePiece [c]
  | parenthesis : NoisePiece ['(']
  | block {body : List Char} (unclosed : ¬ ['*', '/'] <:+: body) :
      NoisePiece ('/' :: '*' :: (body ++ ['*', '/']))
  | dashes {line : List Char} (unbroken : '\n' ∉ line) :
      NoisePiece ('-' :: '-' :: (line ++ ['\n']))
  | hash {line : List Char} (unbroken : '\n' ∉ line) : NoisePiece ('#' :: (line ++ ['\n']))

/-- A line comment without an end. -/
inductive OpenComment : List Char -> Prop
  | dashes {line : List Char} (unbroken : '\n' ∉ line) : OpenComment ('-' :: '-' :: line)
  | hash {line : List Char} (unbroken : '\n' ∉ line) : OpenComment ('#' :: line)

/-- Complete pieces of noise, one after another. -/
inductive Noise : List Char -> Prop
  | nil : Noise []
  | cons {piece noise : List Char} (first : NoisePiece piece) (others : Noise noise) :
      Noise (piece ++ noise)

/-- Noise before the rest of a text.  At the end of the text a line comment needs no end. -/
def NoiseBefore (noise rest : List Char) : Prop :=
  Noise noise ∨
    rest = [] ∧ exists closed line, noise = closed ++ line ∧ Noise closed ∧ OpenComment line

/-- The longest noise in front of a text, for a notion of noise before a rest. -/
structure Longest (before : List Char -> List Char -> Prop) (cs noise rest : List Char) :
    Prop where
  split : cs = noise ++ rest
  isNoise : before noise rest
  longest : forall other later, cs = other ++ later -> before other later ->
    other.length ≤ noise.length

theorem NoisePiece.length_pos {piece : List Char} (one : NoisePiece piece) :
    0 < piece.length := by
  cases one <;> exact Nat.zero_lt_succ _

theorem Noise.append {first second : List Char} (noise : Noise first) (more : Noise second) :
    Noise (first ++ second) := by
  induction noise with
  | nil => exact more
  | cons piece _ inductionHypothesis =>
      rw [List.append_assoc]
      exact .cons piece inductionHypothesis

theorem Noise.piece {piece : List Char} (one : NoisePiece piece) : Noise piece :=
  List.append_nil piece ▸ .cons one .nil

/-! ## Comments -/

theorem afterBlockComment_cons (c : Char) (rest : List Char) :
    afterBlockComment (c :: rest) =
      if c = '*' ∧ rest.head? = some '/' then some rest.tail else afterBlockComment rest := by
  by_cases closing : c = '*' ∧ rest.head? = some '/'
  · rw [if_pos closing]
    rcases closing with ⟨rfl, slash⟩
    rcases List.head?_eq_some_iff.mp slash with ⟨later, rfl⟩
    rfl
  · rw [if_neg closing, afterBlockComment]
    rintro later rfl rfl
    exact closing ⟨rfl, rfl⟩

/-- A block comment ends at the first mark, whatever follows. -/
theorem afterBlockComment_append {body : List Char} (unclosed : ¬ ['*', '/'] <:+: body)
    (rest : List Char) : afterBlockComment (body ++ '*' :: '/' :: rest) = some rest := by
  induction body with
  | nil => rfl
  | cons c body inductionHypothesis =>
      -- If this is the last character of the body, a star comes next and not a slash.
      have open' : ¬ (c = '*' ∧ (body ++ '*' :: '/' :: rest).head? = some '/') := by
        rintro ⟨rfl, slash⟩
        rcases body with _ | ⟨d, body⟩
        · cases slash
        · cases slash
          exact unclosed ⟨[], body, rfl⟩
      rw [List.cons_append, afterBlockComment_cons, if_neg open']
      exact inductionHypothesis fun closed => unclosed (List.infix_cons closed)

theorem exists_body_of_afterBlockComment {cs rest : List Char}
    (closed : afterBlockComment cs = some rest) :
    exists body, ¬ ['*', '/'] <:+: body ∧ cs = body ++ '*' :: '/' :: rest := by
  induction cs with
  | nil => cases closed
  | cons c cs inductionHypothesis =>
      rw [afterBlockComment_cons] at closed
      by_cases closing : c = '*' ∧ cs.head? = some '/'
      · rw [if_pos closing] at closed
        cases closed
        rcases closing with ⟨rfl, slash⟩
        rcases List.head?_eq_some_iff.mp slash with ⟨later, rfl⟩
        exact ⟨[], by decide, rfl⟩
      · rw [if_neg closing] at closed
        rcases inductionHypothesis closed with ⟨body, unclosed, rfl⟩
        refine ⟨c :: body, ?_, rfl⟩
        intro closed'
        rcases List.infix_cons_iff.mp closed' with front | inside
        · rcases front with ⟨later, same⟩
          rcases List.cons.inj same with ⟨rfl, rfl⟩
          exact closing ⟨rfl, rfl⟩
        · exact unclosed inside

/-- A line ends at its first break, whatever follows. -/
theorem afterLine_append {line : List Char} (unbroken : '\n' ∉ line) (rest : List Char) :
    afterLine (line ++ '\n' :: rest) = rest := by
  induction line with
  | nil => rfl
  | cons c line inductionHypothesis =>
      rw [List.mem_cons, not_or] at unbroken
      rw [List.cons_append, afterLine, if_neg (Ne.symm unbroken.1)]
      exact inductionHypothesis unbroken.2

theorem afterLine_of_unbroken {line : List Char} (unbroken : '\n' ∉ line) :
    afterLine line = [] := by
  induction line with
  | nil => rfl
  | cons c line inductionHypothesis =>
      rw [List.mem_cons, not_or] at unbroken
      rw [afterLine, if_neg (Ne.symm unbroken.1)]
      exact inductionHypothesis unbroken.2

theorem exists_line_of_mem {cs : List Char} (broken : '\n' ∈ cs) :
    exists line, '\n' ∉ line ∧ cs = line ++ '\n' :: afterLine cs := by
  induction cs with
  | nil => cases broken
  | cons c cs inductionHypothesis =>
      by_cases here : c = '\n'
      · subst here
        exact ⟨[], List.not_mem_nil, rfl⟩
      · have later := (List.mem_cons.mp broken).resolve_left (Ne.symm here)
        rcases inductionHypothesis later with ⟨line, unbroken, split⟩
        refine ⟨c :: line, ?_, ?_⟩
        · rw [List.mem_cons, not_or]
          exact ⟨Ne.symm here, unbroken⟩
        · rw [afterLine, if_neg here, List.cons_append, ← split]

/-! ## One step of the scan -/

theorem afterNoise_cons (c : Char) (rest : List Char) :
    afterNoise (c :: rest) =
      if c = '-' ∧ rest.head? = some '-' then some (afterLine rest.tail)
      else if c = '#' then some (afterLine rest)
      else if c = '/' ∧ rest.head? = some '*' then afterBlockComment rest.tail
      else if c = '(' ∨ Text.isBlank c = true then some rest
      else none := by
  unfold afterNoise
  split
  · rename_i impossible
    cases impossible
  · rename_i found
    cases found
    rw [if_pos ⟨rfl, rfl⟩, List.tail_cons]
  · rename_i found
    cases found
    rw [if_neg fun both => absurd both.1 (by decide), if_pos rfl]
  · rename_i found
    cases found
    rw [if_neg fun both => absurd both.1 (by decide), if_neg (by decide), if_pos ⟨rfl, rfl⟩,
      List.tail_cons]
  · rename_i found
    cases found
    rw [if_neg fun both => absurd both.1 (by decide), if_neg (by decide),
      if_neg fun both => absurd both.1 (by decide), if_pos (Or.inl rfl)]
  · rename_i dashes hash block parenthesis found
    cases found
    have noDashes : ¬ (c = '-' ∧ rest.head? = some '-') := by
      rintro ⟨same, dash⟩
      rcases List.head?_eq_some_iff.mp dash with ⟨later, next⟩
      exact dashes later same next
    have noBlock : ¬ (c = '/' ∧ rest.head? = some '*') := by
      rintro ⟨same, star⟩
      rcases List.head?_eq_some_iff.mp star with ⟨later, next⟩
      exact block later same next
    have noParenthesis : ¬ c = '(' := parenthesis
    rw [if_neg noDashes, if_neg hash, if_neg noBlock]
    simp only [noParenthesis, false_or]

/-- The scan passes over a complete piece, whatever follows. -/
theorem NoisePiece.afterNoise_append {piece : List Char} (one : NoisePiece piece)
    (rest : List Char) : afterNoise (piece ++ rest) = some rest := by
  cases one with
  | @blank c blank =>
      have dark : forall d, Text.isBlank d = false -> c ≠ d := by
        rintro d dark rfl
        exact Bool.false_ne_true (dark.symm.trans blank)
      rw [List.singleton_append, afterNoise_cons, if_neg fun both => dark '-' rfl both.1,
        if_neg (dark '#' rfl), if_neg fun both => dark '/' rfl both.1, if_pos (Or.inr blank)]
  | parenthesis => rfl
  | @block body unclosed =>
      have closed := afterBlockComment_append unclosed rest
      rw [← closed, List.cons_append, List.cons_append, List.append_assoc]
      rfl
  | @dashes line unbroken =>
      have ended := afterLine_append unbroken rest
      rw [List.cons_append, List.cons_append, List.append_assoc]
      exact congrArg some ended
  | @hash line unbroken =>
      have ended := afterLine_append unbroken rest
      rw [List.cons_append, List.append_assoc]
      exact congrArg some ended

/-- What the scan passes over is a complete piece, or a comment that takes up the whole text. -/
theorem exists_piece_of_afterNoise {cs rest : List Char} (found : afterNoise cs = some rest) :
    (exists piece, NoisePiece piece ∧ cs = piece ++ rest) ∨ (OpenComment cs ∧ rest = []) := by
  unfold afterNoise at found
  split at found
  · cases found
  · rename_i tail
    cases found
    by_cases broken : '\n' ∈ tail
    · rcases exists_line_of_mem broken with ⟨line, unbroken, split⟩
      refine Or.inl ⟨_, .dashes unbroken, ?_⟩
      rw [List.cons_append, List.cons_append, List.append_assoc, List.singleton_append, ← split]
    · exact Or.inr ⟨.dashes broken, afterLine_of_unbroken broken⟩
  · rename_i tail
    cases found
    by_cases broken : '\n' ∈ tail
    · rcases exists_line_of_mem broken with ⟨line, unbroken, split⟩
      refine Or.inl ⟨_, .hash unbroken, ?_⟩
      rw [List.cons_append, List.append_assoc, List.singleton_append, ← split]
    · exact Or.inr ⟨.hash broken, afterLine_of_unbroken broken⟩
  · rcases exists_body_of_afterBlockComment found with ⟨body, unclosed, rfl⟩
    refine Or.inl ⟨_, .block unclosed, ?_⟩
    rw [List.cons_append, List.cons_append, List.append_assoc]
    rfl
  · cases found
    exact Or.inl ⟨_, .parenthesis, rfl⟩
  · rename_i c tail _ _ _ _
    by_cases blank : Text.isBlank c = true
    · rw [if_pos blank] at found
      cases found
      exact Or.inl ⟨_, .blank blank, rfl⟩
    · rw [if_neg blank] at found
      cases found

theorem OpenComment.afterNoise {comment : List Char} (unended : OpenComment comment) :
    afterNoise comment = some [] := by
  cases unended with
  | dashes unbroken => exact congrArg some (afterLine_of_unbroken unbroken)
  | hash unbroken => exact congrArg some (afterLine_of_unbroken unbroken)

/-! ## The whole scan -/

theorem afterLeadingNoise_of_some {cs rest : List Char} (found : afterNoise cs = some rest) :
    afterLeadingNoise cs = afterLeadingNoise rest := by
  rw [afterLeadingNoise]
  split
  · rename_i missing
    cases found.symm.trans missing
  · rename_i found'
    cases found.symm.trans found'
    rfl

theorem afterLeadingNoise_of_none {cs : List Char} (missing : afterNoise cs = none) :
    afterLeadingNoise cs = cs := by
  rw [afterLeadingNoise]
  split
  · rfl
  · rename_i found
    cases missing.symm.trans found

theorem afterLeadingNoise_nil : afterLeadingNoise [] = [] :=
  afterLeadingNoise_of_none rfl

/-- The scan stops at the same place with noise in front as without. -/
theorem Noise.afterLeadingNoise_append {noise : List Char} (isNoise : Noise noise)
    (rest : List Char) : afterLeadingNoise (noise ++ rest) = afterLeadingNoise rest := by
  induction isNoise with
  | nil => rfl
  | cons one _ inductionHypothesis =>
      rw [List.append_assoc, afterLeadingNoise_of_some (one.afterNoise_append _)]
      exact inductionHypothesis

/-! ## The longest noise -/

/-- The letters at the front. -/
def letters (cs : List Char) : List Char :=
  cs.takeWhile Char.isAlpha

theorem OpenComment.letters_eq_nil {comment : List Char} (unended : OpenComment comment) :
    letters comment = [] := by
  cases unended <;> exact List.takeWhile_cons_of_neg (by decide)

namespace Longest

variable {before : List Char -> List Char -> Prop} {cs noise rest : List Char}

theorem exists_longest (start : before noise rest) (split : cs = noise ++ rest) :
    exists noise rest, Longest before cs noise rest := by
  induction length : rest.length using Nat.strongRecOn generalizing noise rest with
  | ind size inductionHypothesis =>
      by_cases better : exists other later,
          cs = other ++ later ∧ before other later ∧ noise.length < other.length
      · rcases better with ⟨other, later, split', isNoise, longer⟩
        have shorter : later.length < size := by
          have same := congrArg List.length (split.symm.trans split')
          simp only [List.length_append] at same
          omega
        exact inductionHypothesis _ shorter isNoise split' rfl
      · refine ⟨noise, rest, split, start, ?_⟩
        intro other later split' isNoise
        exact Nat.le_of_not_lt fun longer => better ⟨other, later, split', isNoise, longer⟩

/-- No complete piece follows noise that is the longest. -/
theorem not_piece {piece later : List Char} (longest : Longest before cs noise rest)
    (split : rest = piece ++ later) (more : before (noise ++ piece) later) :
    ¬ NoisePiece piece := by
  intro one
  have bound := longest.longest (noise ++ piece) later
    (by rw [longest.split, split, List.append_assoc]) more
  have positive := one.length_pos
  rw [List.length_append] at bound
  omega

/-- The scan stops where the longest noise ends. -/
theorem afterLeadingNoise_eq (longest : Longest NoiseBefore cs noise rest) :
    afterLeadingNoise cs = rest := by
  rw [longest.split]
  rcases longest.isNoise with isNoise | ⟨rfl, closed, comment, rfl, isNoise, unended⟩
  · rw [isNoise.afterLeadingNoise_append]
    cases found : afterNoise rest with
    | none => exact afterLeadingNoise_of_none found
    | some later =>
        exfalso
        rcases exists_piece_of_afterNoise found with ⟨piece, one, split⟩ | ⟨unended, rfl⟩
        · exact longest.not_piece split (Or.inl (isNoise.append (.piece one))) one
        · have whole : NoiseBefore (noise ++ rest) [] :=
            Or.inr ⟨rfl, noise, rest, rfl, isNoise, unended⟩
          have bound := longest.longest (noise ++ rest) []
            (by rw [longest.split, List.append_nil]) whole
          have shorter := length_afterNoise found
          rw [List.length_append] at bound
          omega
  · rw [List.append_nil, isNoise.afterLeadingNoise_append,
      afterLeadingNoise_of_some unended.afterNoise, afterLeadingNoise_nil]

/-- If only complete pieces count, a comment without an end may follow the longest noise.  There
are no letters at its front, and none where the scan stops. -/
theorem letters_eq (longest : Longest (fun noise _ => Noise noise) cs noise rest) :
    letters (afterLeadingNoise cs) = letters rest := by
  rw [longest.split, longest.isNoise.afterLeadingNoise_append]
  -- The scan goes on only over a comment that never ends, and then it finds nothing either.
  cases found : afterNoise rest with
  | none => rw [afterLeadingNoise_of_none found]
  | some later =>
      rcases exists_piece_of_afterNoise found with ⟨piece, one, split⟩ | ⟨unended, rfl⟩
      · exact absurd one (longest.not_piece split (longest.isNoise.append (.piece one)))
      · rw [afterLeadingNoise_of_some found, afterLeadingNoise_nil, unended.letters_eq_nil]
        rfl

end Longest

end Sql
end ScopedSql
