import ScopedSql.Name.Grammar
import ScopedSql.Proofs.Sql.Noise
import ScopedSql.Sql.Classifier

namespace ScopedSql

/-!
# First keywords

The kind of a statement is told from the letters behind its noise, without regard
to their case.  Neither noise nor the case of letters anywhere in the text has any
part in it.
-/

namespace Text

/-! ## Capitals -/

theorem toNat_toUpper (c : Char) :
    c.toUpper.toNat = if 97 ≤ c.toNat ∧ c.toNat ≤ 122 then c.toNat - 32 else c.toNat := by
  unfold Char.toUpper
  split
  · rename_i small
    have bounds : 97 ≤ c.toNat ∧ c.toNat ≤ 122 := small
    rw [if_pos bounds]
    change (c.val + ('A'.val - 'a'.val)).toNat = c.toNat - 32
    rw [UInt32.toNat_add]
    change (c.toNat + 4294967264) % 2 ^ 32 = c.toNat - 32
    omega
  · rename_i other
    have bounds : ¬ (97 ≤ c.toNat ∧ c.toNat ≤ 122) := other
    rw [if_neg bounds]

theorem isAlpha_iff (c : Char) :
    c.isAlpha = true ↔ (65 ≤ c.toNat ∧ c.toNat ≤ 90) ∨ (97 ≤ c.toNat ∧ c.toNat ≤ 122) := by
  delta Char.isAlpha Char.isUpper Char.isLower
  simp only [Bool.or_eq_true, Bool.and_eq_true, decide_eq_true_eq]
  exact Iff.rfl

theorem isAlpha_toUpper (c : Char) : c.toUpper.isAlpha = c.isAlpha := by
  rw [Bool.eq_iff_iff, isAlpha_iff, isAlpha_iff, toNat_toUpper]
  split <;> omega

/-- A capital is no sign, and every other character stays as it is. -/
theorem toUpper_eq_iff {c sign : Char} (noLetter : sign.isAlpha = false) :
    c.toUpper = sign ↔ c = sign := by
  have outside := mt (isAlpha_iff sign).mpr (Bool.eq_false_iff.mp noLetter)
  rw [← Char.toNat_inj, ← Char.toNat_inj, toNat_toUpper]
  split <;> omega

theorem toUpper_toUpper (c : Char) : c.toUpper.toUpper = c.toUpper := by
  have large : ¬ (97 ≤ c.toUpper.toNat ∧ c.toUpper.toNat ≤ 122) := by
    rw [toNat_toUpper]
    split <;> omega
  rw [← Char.toNat_inj, toNat_toUpper c.toUpper, if_neg large]

theorem isBlank_toUpper (c : Char) : isBlank c.toUpper = isBlank c := by
  have dark : forall d : Char, d.isAlpha = true -> isBlank d = false := by
    intro d letter
    apply Name.isBlank_eq_false_of_isWordChar
    rw [Name.isWordChar, Char.isAlphanum, letter]
    rfl
  cases letter : c.isAlpha with
  | true => rw [dark c letter, dark c.toUpper ((isAlpha_toUpper c).trans letter)]
  | false => rw [(toUpper_eq_iff letter).mpr rfl]

theorem head?_map_toUpper {sign : Char} (noLetter : sign.isAlpha = false) (cs : List Char) :
    (cs.map Char.toUpper).head? = some sign ↔ cs.head? = some sign := by
  cases cs with
  | nil => exact Iff.rfl
  | cons c cs =>
      rw [List.map_cons, List.head?_cons, List.head?_cons, Option.some_inj, Option.some_inj]
      exact toUpper_eq_iff noLetter

theorem toList_upper (s : String) : (upper s).toList = s.toList.map Char.toUpper := by
  rw [upper, String.toList_ofList]

end Text

namespace Sql

open Text

/-! ## The case of letters -/

theorem afterLine_map_toUpper (cs : List Char) :
    afterLine (cs.map Char.toUpper) = (afterLine cs).map Char.toUpper := by
  induction cs with
  | nil => rfl
  | cons c cs inductionHypothesis =>
      rw [List.map_cons, afterLine, afterLine]
      by_cases broken : c = '\n'
      · rw [if_pos broken, if_pos ((toUpper_eq_iff (by decide)).mpr broken)]
      · rw [if_neg broken, if_neg (mt (toUpper_eq_iff (by decide)).mp broken)]
        exact inductionHypothesis

theorem afterBlockComment_map_toUpper (cs : List Char) :
    afterBlockComment (cs.map Char.toUpper) =
      (afterBlockComment cs).map (List.map Char.toUpper) := by
  induction cs with
  | nil => rfl
  | cons c cs inductionHypothesis =>
      rw [List.map_cons, afterBlockComment_cons, afterBlockComment_cons]
      simp only [toUpper_eq_iff (show '*'.isAlpha = false by decide),
        head?_map_toUpper (show '/'.isAlpha = false by decide), inductionHypothesis]
      split
      · rw [Option.map_some, List.map_tail]
      · rfl

theorem afterNoise_map_toUpper (cs : List Char) :
    afterNoise (cs.map Char.toUpper) = (afterNoise cs).map (List.map Char.toUpper) := by
  cases cs with
  | nil => rfl
  | cons c cs =>
      rw [List.map_cons, afterNoise_cons, afterNoise_cons]
      -- No condition of the step is about a letter.
      simp only [toUpper_eq_iff (show '-'.isAlpha = false by decide),
        toUpper_eq_iff (show '#'.isAlpha = false by decide),
        toUpper_eq_iff (show '/'.isAlpha = false by decide),
        toUpper_eq_iff (show '('.isAlpha = false by decide),
        head?_map_toUpper (show '-'.isAlpha = false by decide),
        head?_map_toUpper (show '*'.isAlpha = false by decide), isBlank_toUpper,
        ← List.map_tail, afterLine_map_toUpper, afterBlockComment_map_toUpper]
      simp only [apply_ite (Option.map _), Option.map_some, Option.map_none]

/-- The scan stops at the same place in a text of capitals. -/
theorem afterLeadingNoise_map_toUpper (cs : List Char) :
    afterLeadingNoise (cs.map Char.toUpper) = (afterLeadingNoise cs).map Char.toUpper := by
  fun_induction afterLeadingNoise cs with
  | case1 cs missing =>
      apply afterLeadingNoise_of_none
      rw [afterNoise_map_toUpper, missing, Option.map_none]
  | case2 cs rest found inductionHypothesis =>
      rw [← inductionHypothesis]
      apply afterLeadingNoise_of_some
      rw [afterNoise_map_toUpper, found, Option.map_some]

theorem firstKeyword_eq (sql : String) :
    firstKeyword sql =
      String.ofList ((letters (afterLeadingNoise sql.toList)).map Char.toUpper) := rfl

/-- The first keyword of a text is that of the text in capitals. -/
theorem firstKeyword_upper (sql : String) : firstKeyword (upper sql) = firstKeyword sql := by
  have capital : (Char.toUpper ∘ Char.toUpper) = Char.toUpper := funext toUpper_toUpper
  have alike : (Char.isAlpha ∘ Char.toUpper) = Char.isAlpha := funext isAlpha_toUpper
  rw [firstKeyword_eq, firstKeyword_eq, toList_upper, afterLeadingNoise_map_toUpper, letters,
    List.takeWhile_map, List.map_map, capital, alike, letters]

/-! ## Kinds -/

/-- The first keyword decides. -/
theorem byKeyword_congr {sql other : String} (same : firstKeyword other = firstKeyword sql) :
    Classifier.byKeyword other = Classifier.byKeyword sql := by
  unfold Classifier.byKeyword kindByKeyword
  rw [same]

/-- The outcome is what the word says: it is one of the words that read, another one, or empty. -/
structure DecidedBy (word : List Char) (outcome : Except Error StatementKind) : Prop where
  read : outcome = .ok .read ↔ String.ofList (word.map Char.toUpper) ∈ readKeywords
  write : outcome = .ok .write ↔
    word ≠ [] ∧ String.ofList (word.map Char.toUpper) ∉ readKeywords
  failed : (exists e, outcome = .error e) ↔ word = []
  fault : forall e, outcome = .error e -> e = .argument statementArgument .noStatement

theorem DecidedBy.nothing :
    DecidedBy [] (.error (.argument statementArgument .noStatement)) where
  read := iff_of_false nofun (by decide)
  write := iff_of_false nofun fun both => both.1 rfl
  failed := iff_of_true ⟨_, rfl⟩ rfl
  fault := by
    rintro e ⟨⟩
    rfl

theorem DecidedBy.known {word : List Char} (filled : word ≠ [])
    (known : String.ofList (word.map Char.toUpper) ∈ readKeywords) :
    DecidedBy word (.ok .read) where
  read := iff_of_true rfl known
  write := iff_of_false nofun fun both => both.2 known
  failed := iff_of_false nofun filled
  fault := nofun

theorem DecidedBy.unknown {word : List Char} (filled : word ≠ [])
    (unknown : String.ofList (word.map Char.toUpper) ∉ readKeywords) :
    DecidedBy word (.ok .write) where
  read := iff_of_false nofun unknown
  write := iff_of_true rfl ⟨filled, unknown⟩
  failed := iff_of_false nofun filled
  fault := nofun

theorem byKeyword_decidedBy (sql : String) :
    DecidedBy (letters (afterLeadingNoise sql.toList)) (Classifier.byKeyword sql) := by
  unfold Classifier.byKeyword kindByKeyword
  rw [firstKeyword_eq]
  generalize letters (afterLeadingNoise sql.toList) = word
  by_cases none : word = []
  · subst none
    exact .nothing
  · have filled : ¬ (String.ofList (word.map Char.toUpper)).isEmpty = true := by
      simpa using none
    by_cases known : String.ofList (word.map Char.toUpper) ∈ readKeywords
    · simp only [if_neg filled, if_pos (List.contains_iff_mem.mpr known)]
      exact .known none known
    · simp only [if_neg filled, if_neg (mt List.contains_iff_mem.mp known)]
      exact .unknown none known

/-- The letters right behind the longest noise decide, for a notion of noise before a rest. -/
structure DecidedBehind (before : List Char -> List Char -> Prop) (sql : String) : Prop where
  found : exists noise rest, Longest before sql.toList noise rest
  decided : forall noise rest, Longest before sql.toList noise rest ->
    DecidedBy (letters rest) (Classifier.byKeyword sql)

/-- Noise in front of a text does not matter for its kind, nor does the case of ASCII letters.  The
letters right behind the longest noise decide; whether a comment without an end counts as noise
makes no difference. -/
structure Classified (sql : String) : Prop where
  behindNoise : forall noise, Noise noise ->
    Classifier.byKeyword (String.ofList noise ++ sql) = Classifier.byKeyword sql
  anyCase : forall other, upper other = upper sql ->
    Classifier.byKeyword other = Classifier.byKeyword sql
  behindPieces : DecidedBehind (fun noise _ => Noise noise) sql
  behindComments : DecidedBehind NoiseBefore sql

/-- Every text is classified by the letters behind its noise alone. -/
theorem classified (sql : String) : Classified sql where
  behindNoise := by
    intro noise isNoise
    apply byKeyword_congr
    rw [firstKeyword_eq, firstKeyword_eq, String.toList_append, String.toList_ofList,
      isNoise.afterLeadingNoise_append]
  anyCase := by
    intro other same
    apply byKeyword_congr
    rw [← firstKeyword_upper other, same, firstKeyword_upper]
  behindPieces := by
    constructor
    · exact Longest.exists_longest Noise.nil (List.nil_append _).symm
    · intro noise rest longest
      rw [← longest.letters_eq]
      exact byKeyword_decidedBy sql
  behindComments := by
    constructor
    · exact Longest.exists_longest (Or.inl Noise.nil) (List.nil_append _).symm
    · intro noise rest longest
      rw [← longest.afterLeadingNoise_eq]
      exact byKeyword_decidedBy sql

/-- A query behind a block comment that holds the opening of another one, a line comment with a
quote in it, and a parenthesis. -/
theorem classified_of_noisy_query :
    let noise := ['/', '*', '/', '*', '*', '/'] ++ (['-', '-', '\'', '\n'] ++ ['('])
    Noise noise ∧ Classifier.byKeyword (String.ofList noise ++ "sElEcT 1") = .ok .read := by
  have block : NoisePiece ['/', '*', '/', '*', '*', '/'] :=
    @NoisePiece.block ['/', '*'] (by decide)
  have dashes : NoisePiece ['-', '-', '\'', '\n'] := @NoisePiece.dashes ['\''] (by decide)
  have isNoise := Noise.cons block (.cons dashes (.piece .parenthesis))
  refine ⟨isNoise, ?_⟩
  rw [(classified "sElEcT 1").behindNoise _ isNoise]
  apply (byKeyword_decidedBy "sElEcT 1").read.mpr
  decide +kernel

end Sql
end ScopedSql
