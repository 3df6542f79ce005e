import ScopedSql.Text.Blank

namespace ScopedSql
namespace Name

/-!
# The names that may stand in a statement

Names of databases, tables, branches and revisions become part of statement
texts, so only a fixed alphabet is admitted and every name starts with a letter,
a digit or an underscore.  In particular no admitted name starts with a dash
and none holds a quote, a backslash or white space.
-/

/-- What a name is the name of. -/
inductive Kind
  | database
  | table
  | branch
  | revision
  deriving DecidableEq, Repr

def Kind.word : Kind -> String
  | .database => "database"
  | .table => "table"
  | .branch => "branch"
  | .revision => "revision"

/-- ASCII letters, digits and the underscore. -/
def isWordChar (c : Char) : Bool :=
  c.isAlphanum || c = '_'

/-- A word character leaves a mark on the page. -/
theorem isBlank_eq_false_of_isWordChar {c : Char} (word : isWordChar c = true) :
    Text.isBlank c = false := by
  delta isWordChar Char.isAlphanum Char.isAlpha Char.isUpper Char.isLower Char.isDigit at word
  simp only [Bool.or_eq_true, Bool.and_eq_true, decide_eq_true_eq, UInt32.le_iff_toNat_le,
    ge_iff_le] at word
  change ((((65 ≤ c.toNat ∧ c.toNat ≤ 90) ∨ (97 ≤ c.toNat ∧ c.toNat ≤ 122)) ∨
    (48 ≤ c.toNat ∧ c.toNat ≤ 57)) ∨ c = '_') at word
  rcases word with letterOrDigit | rfl
  · simp only [Text.isBlank, Bool.or_eq_false_iff, Bool.and_eq_false_iff, decide_eq_false_iff_not,
      beq_eq_false_iff_ne]
    omega
  · decide

/-- The characters that may follow the first one besides word characters. -/
def Kind.extraChars : Kind -> List Char
  | .database => ['$', '-']
  | .table => ['$', '-']
  | .branch => ['.', '/', '-']
  | .revision => ['.', '/', '~', '^', '-']

def Kind.longest : Kind -> Nat
  | .database => 64
  | .table => 64
  | .branch => 255
  | .revision => 255

def Kind.bannedRuns : Kind -> List (List Char)
  | .branch => [['.', '.'], ['/', '/']]
  | .revision => [['.', '.']]
  | _ => []

def Kind.bannedEndings : Kind -> List (List Char)
  | .branch => [['/'], ['.'], ['.', 'l', 'o', 'c', 'k']]
  | _ => []

/-- Does the text have the shape of a name of this kind? -/
def Kind.accepts (kind : Kind) (name : List Char) : Bool :=
  match name with
  | [] => false
  | first :: rest =>
    isWordChar first &&
      rest.all (fun c => isWordChar c || kind.extraChars.contains c) &&
      name.length ≤ kind.longest &&
      kind.bannedRuns.all (fun run => !Text.occurs run name) &&
      kind.bannedEndings.all (fun ending => !ending.isSuffixOf name)

/-- Every character of a name is a word character or one of the few others of its kind. -/
theorem Kind.mem_of_accepts {kind : Kind} {name : List Char} (accepted : kind.accepts name = true)
    {c : Char} (member : c ∈ name) : isWordChar c = true ∨ c ∈ kind.extraChars := by
  cases name with
  | nil => cases member
  | cons first rest =>
      simp only [accepts, Bool.and_eq_true, List.all_eq_true, Bool.or_eq_true,
        List.contains_iff_mem] at accepted
      obtain ⟨⟨⟨⟨firstWord, restChars⟩, _⟩, _⟩, _⟩ := accepted
      rcases List.mem_cons.mp member with rfl | later
      · exact Or.inl firstWord
      · exact restChars c later

/-- The characters that have a meaning inside quotes stand in no name. -/
theorem Kind.ne_of_mem_of_accepts {kind : Kind} {name : List Char}
    (accepted : kind.accepts name = true) {c : Char} (member : c ∈ name) :
    c ≠ '\x60' ∧ c ≠ '\'' ∧ c ≠ '\\' ∧ c ≠ '\x00' := by
  rcases mem_of_accepts accepted member with word | extra
  · refine ⟨?_, ?_, ?_, ?_⟩ <;>
    · rintro rfl
      revert word
      decide
  · cases kind <;>
    · refine ⟨?_, ?_, ?_, ?_⟩ <;>
      · rintro rfl
        revert extra
        decide

theorem Kind.ne_nil_of_accepts {kind : Kind} {name : List Char}
    (accepted : kind.accepts name = true) : name ≠ [] := by
  rintro rfl
  cases accepted

end Name
end ScopedSql
