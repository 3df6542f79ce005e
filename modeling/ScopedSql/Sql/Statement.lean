import ScopedSql.Text.Blank

namespace ScopedSql
namespace Sql

/-!
# Reading and writing statements

A text is classified by its first keyword.  What may stand before the keyword
is noise: white space, opening parentheses, comments to the end of the line,
and block comments up to the first closing mark.  A block comment that is never
closed is no noise, so such a text has no keyword.

Only the front of the text is looked at.  Nothing is claimed about statements
that follow a semicolon, nor about a read that stores its result.
-/

/-- What a statement does to the data. -/
inductive StatementKind
  | read
  | write
  deriving DecidableEq, Repr

def StatementKind.word : StatementKind -> String
  | .read => "read"
  | .write => "write"

/-- The text after a block comment, given the text after its opening mark. -/
def afterBlockComment : List Char -> Option (List Char)
  | [] => none
  | '*' :: '/' :: rest => some rest
  | _ :: rest => afterBlockComment rest

def afterLine : List Char -> List Char
  | [] => []
  | c :: rest => if c = '\n' then rest else afterLine rest

/-- The text after one piece of noise, if the text starts with one. -/
def afterNoise : List Char -> Option (List Char)
  | [] => none
  | '-' :: '-' :: rest => some (afterLine rest)
  | '#' :: rest => some (afterLine rest)
  | '/' :: '*' :: rest => afterBlockComment rest
  | '(' :: rest => some rest
  | c :: rest => if Text.isBlank c then some rest else none

/-- A closed block comment takes up at least two characters more. -/
theorem length_afterBlockComment {cs rest : List Char}
    (closed : afterBlockComment cs = some rest) : rest.length < cs.length := by
  fun_induction afterBlockComment cs with
  | case1 => simp at closed
  | case2 =>
    simp only [Option.some.injEq] at closed
    subst closed
    simp only [List.length_cons]
    omega
  | case3 c tail _ inductionHypothesis =>
    have shorter := inductionHypothesis closed
    simp only [List.length_cons]
    omega

/-- Skipping a line never lengthens the text. -/
theorem length_afterLine (cs : List Char) : (afterLine cs).length ≤ cs.length := by
  fun_induction afterLine cs with
  | case1 => simp
  | case2 => simp
  | case3 => simp only [List.length_cons]; omega

/-- A piece of noise has at least one character. -/
theorem length_afterNoise {cs rest : List Char}
    (noise : afterNoise cs = some rest) : rest.length < cs.length := by
  unfold afterNoise at noise
  split at noise
  · simp at noise
  · rename_i tail
    have bound := length_afterLine tail
    simp only [Option.some.injEq] at noise
    subst noise
    simp only [List.length_cons]
    omega
  · rename_i tail
    have bound := length_afterLine tail
    simp only [Option.some.injEq] at noise
    subst noise
    simp only [List.length_cons]
    omega
  · have bound := length_afterBlockComment noise
    simp only [List.length_cons]
    omega
  · simp only [Option.some.injEq] at noise
    subst noise
    simp
  · split at noise
    · simp only [Option.some.injEq] at noise
      subst noise
      simp
    · simp at noise

/-- The text after all leading noise. -/
def afterLeadingNoise (cs : List Char) : List Char :=
  match _found : afterNoise cs with
  | none => cs
  | some rest => afterLeadingNoise rest
termination_by cs.length
decreasing_by exact length_afterNoise _found

/-- The first keyword of a text, in capitals; empty if there is none. -/
def firstKeyword (sql : String) : String :=
  String.ofList (((afterLeadingNoise sql.toList).takeWhile Char.isAlpha).map Char.toUpper)

def readKeywords : List String :=
  ["SELECT", "SHOW", "DESCRIBE", "DESC", "EXPLAIN", "WITH", "VALUES", "TABLE"]

/-- The kind that the first keyword stands for; none if there is no keyword. -/
def kindByKeyword (sql : String) : Option StatementKind :=
  let keyword := firstKeyword sql
  if keyword.isEmpty then none
  else if readKeywords.contains keyword then some .read
  else some .write

end Sql
end ScopedSql
