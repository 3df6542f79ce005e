import ScopedSql.Proofs.Decimal.Digits
import ScopedSql.Proofs.Outcome

namespace ScopedSql
namespace Decimal

/-!
# Numerals

A numeral is a run of digits, perhaps with a sign, and has one value.  The
readers take exactly the numerals whose value is in range: none of them wraps a
number or cuts one off.  Of all numerals of a number the writer gives the one
without a plus sign and without needless zeros.
-/

/-- At least one digit.  Zeros may stand in front. -/
structure Figures (n : Nat) (ds : List Char) : Prop extends Spells ds.length n ds where
  nonempty : ds ≠ []

/-- Figures, or figures after a plus sign. -/
inductive Unsigned : Nat -> List Char -> Prop
  | bare {n : Nat} {ds : List Char} (figures : Figures n ds) : Unsigned n ds
  | plus {n : Nat} {ds : List Char} (figures : Figures n ds) : Unsigned n ('+' :: ds)

/-- An unsigned numeral, or figures after a minus sign. -/
inductive Numeral : Int -> List Char -> Prop
  | unsigned {n : Nat} {cs : List Char} (numeral : Unsigned n cs) : Numeral n cs
  | minus {n : Nat} {ds : List Char} (figures : Figures n ds) : Numeral (-n) ('-' :: ds)

/-- The numeral with a minus sign only for negative numbers, no plus sign, and no zero in front of
another digit. -/
inductive Canonical : Int -> List Char -> Prop
  | natural {n : Nat} {ds : List Char} (figures : Figures n ds)
      (noZero : ds.head? = some '0' -> ds = ['0']) : Canonical n ds
  | negative {n : Nat} {ds : List Char} (figures : Figures n ds)
      (noZero : ds.head? ≠ some '0') : Canonical (-n) ('-' :: ds)

namespace Figures

variable {n : Nat} {ds : List Char}

theorem of_digits (nonempty : ds ≠ []) (allDigits : forall c, c ∈ ds -> c.isDigit = true) :
    Figures (ofDigits ds) ds :=
  ⟨⟨rfl, allDigits, rfl⟩, nonempty⟩

theorem of_all (nonempty : ds ≠ []) (allDigits : ds.all Char.isDigit = true)
    (value : ofDigits ds = n) : Figures n ds :=
  ⟨⟨rfl, List.all_eq_true.mp allDigits, value⟩, nonempty⟩

/-- A sign is no digit. -/
theorem ne_cons (figures : Figures n ds) {sign : Char} (mark : sign.isDigit = false)
    (rest : List Char) : ds ≠ sign :: rest := by
  rintro rfl
  have digit := figures.allDigits sign List.mem_cons_self
  rw [mark] at digit
  cases digit

end Figures

/-! ## Reading -/

section Reading

variable {largest number n : Nat} {excess : WholeFault} {cs : List Char}

theorem le_ofDigitChars (number : Nat) (cs : List Char) : number ≤ Nat.ofDigitChars 10 cs number := by
  induction cs generalizing number with
  | nil => exact Nat.le_refl number
  | cons c cs inductionHypothesis =>
      rw [Nat.ofDigitChars_cons]
      have step := inductionHypothesis (10 * number + (c.toNat - '0'.toNat))
      omega

/-- Digits are read onto a number exactly if the result is in range.  No larger number on the way
falls back into the range. -/
theorem readDigits_eq_ok_iff (fits : number ≤ largest) :
    readDigits largest excess number cs = .ok n ↔
      (forall c, c ∈ cs -> c.isDigit = true) ∧ Nat.ofDigitChars 10 cs number = n ∧ n ≤ largest := by
  induction cs generalizing number with
  | nil =>
      rw [readDigits, Nat.ofDigitChars_nil]
      constructor
      · intro read
        cases read
        exact ⟨fun c member => (List.not_mem_nil member).elim, rfl, fits⟩
      · rintro ⟨_, rfl, _⟩
        rfl
  | cons c cs inductionHypothesis =>
      rw [readDigits, digit?, Nat.ofDigitChars_cons, List.forall_mem_cons, and_assoc]
      by_cases digit : c.isDigit = true
      · rw [if_pos digit, Nat.mul_comm number 10]
        simp only [digit, true_and]
        by_cases small : 10 * number + (c.toNat - '0'.toNat) ≤ largest
        · rw [if_pos small]
          exact inductionHypothesis small
        · rw [if_neg small]
          constructor
          · intro read
            cases read
          · rintro ⟨_, rfl, inRange⟩
            exact absurd (Nat.le_trans (le_ofDigitChars _ cs) inRange) small
      · rw [if_neg digit]
        constructor
        · intro read
          cases read
        · rintro ⟨impossible, _⟩
          exact absurd impossible digit

theorem figures_iff : Figures n cs ↔
    cs ≠ [] ∧ (forall c, c ∈ cs -> c.isDigit = true) ∧ Nat.ofDigitChars 10 cs 0 = n := by
  rw [← ofDigits_eq_ofDigitChars]
  constructor
  · intro figures
    exact ⟨figures.nonempty, figures.allDigits, figures.value⟩
  · rintro ⟨nonempty, allDigits, rfl⟩
    exact Figures.of_digits nonempty allDigits

theorem readDigits_figures (nonempty : cs ≠ []) :
    readDigits largest excess 0 cs = .ok n ↔ Figures n cs ∧ n ≤ largest := by
  rw [readDigits_eq_ok_iff (Nat.zero_le largest), figures_iff, and_iff_right nonempty, and_assoc]

theorem readSome_eq_ok_iff :
    readSome largest excess cs = .ok n ↔ Figures n cs ∧ n ≤ largest := by
  cases cs with
  | nil =>
      constructor
      · intro read
        cases read
      · intro both
        exact absurd rfl both.1.nonempty
  | cons c cs => exact readDigits_figures (List.cons_ne_nil c cs)

/-- The reader of natural numbers takes the unsigned numerals in range and nothing else. -/
theorem readNat_eq_ok_iff : readNat largest cs = .ok n ↔ Unsigned n cs ∧ n ≤ largest := by
  unfold readNat
  split
  · constructor
    · intro read
      cases read
    · rintro ⟨⟨figures⟩, _⟩
      exact absurd rfl figures.nonempty
  · rw [readSome_eq_ok_iff]
    constructor
    · intro both
      exact ⟨.plus both.1, both.2⟩
    · rintro ⟨numeral, inRange⟩
      cases numeral with
      | bare figures => exact absurd rfl (figures.ne_cons rfl _)
      | plus figures => exact ⟨figures, inRange⟩
  · rename_i nonempty unmarked
    rw [readDigits_figures nonempty]
    constructor
    · intro both
      exact ⟨.bare both.1, both.2⟩
    · rintro ⟨numeral, inRange⟩
      cases numeral with
      | bare figures => exact ⟨figures, inRange⟩
      | plus figures => exact absurd rfl (unmarked _)

/-- The reader of integers takes the numerals in range and nothing else. -/
theorem readInt_eq_ok_iff {bound : Nat} (positive : 0 < bound) {z : Int} :
    readInt bound cs = .ok z ↔ Numeral z cs ∧ -(bound : Int) ≤ z ∧ z < bound := by
  unfold readInt
  split
  · constructor
    · intro read
      cases read
    · rintro ⟨⟨⟨figures⟩⟩, _⟩
      exact absurd rfl figures.nonempty
  · simp only [map_eq_ok, readSome_eq_ok_iff]
    constructor
    · rintro ⟨n, ⟨figures, inRange⟩, rfl⟩
      exact ⟨.unsigned (.plus figures), by simp only [Int.ofNat_eq_natCast]; omega⟩
    · rintro ⟨⟨numeral⟩, inRange⟩
      cases numeral with
      | bare figures => exact absurd rfl (figures.ne_cons rfl _)
      | plus figures => exact ⟨_, ⟨figures, by omega⟩, rfl⟩
  · simp only [map_eq_ok, readSome_eq_ok_iff]
    constructor
    · rintro ⟨n, ⟨figures, inRange⟩, rfl⟩
      exact ⟨.minus figures, by simp only [Int.ofNat_eq_natCast]; omega⟩
    · rintro ⟨numeral, inRange⟩
      cases numeral with
      | unsigned numeral =>
          cases numeral with
          | bare figures => exact absurd rfl (figures.ne_cons rfl _)
      | minus figures => exact ⟨_, ⟨figures, by omega⟩, rfl⟩
  · rename_i nonempty noPlus noMinus
    simp only [map_eq_ok, readDigits_figures nonempty]
    constructor
    · rintro ⟨n, ⟨figures, inRange⟩, rfl⟩
      exact ⟨.unsigned (.bare figures), by simp only [Int.ofNat_eq_natCast]; omega⟩
    · rintro ⟨numeral, inRange⟩
      cases numeral with
      | unsigned numeral =>
          cases numeral with
          | bare figures => exact ⟨_, ⟨figures, by omega⟩, rfl⟩
          | plus figures => exact absurd rfl (noPlus _)
      | minus figures => exact absurd rfl (noMinus _)

/-- A text is a numeral of one number only, since some reader has room for both. -/
theorem Numeral.unique {z other : Int} (numeral : Numeral z cs) (second : Numeral other cs) :
    z = other := by
  have positive : 0 < z.natAbs + other.natAbs + 1 := Nat.succ_pos _
  have read := (readInt_eq_ok_iff positive).mpr ⟨numeral, by omega⟩
  have again := (readInt_eq_ok_iff positive).mpr ⟨second, by omega⟩
  exact Except.ok.inj (read.symm.trans again)

end Reading

/-! ## Writing -/

section Writing

variable {n : Nat} {ds cs : List Char} {z : Int}

theorem figures_digits (n : Nat) : Figures n (digits n) := by
  apply figures_iff.mpr
  refine ⟨Nat.toDigits_ne_nil, ?_, Nat.ofDigitChars_ten_toDigits⟩
  intro c member
  exact Nat.isDigit_of_mem_toDigits (by decide) (by decide) member

/-- A number needs as many digits as are written, so none of them is a needless zero. -/
theorem digits_noZero (first : (digits n).head? = some '0') : digits n = ['0'] := by
  cases written : digits n with
  | nil =>
      rw [written] at first
      cases first
  | cons c rest =>
      rw [written] at first
      cases first
      have figures := figures_digits n
      rw [written] at figures
      by_cases last : rest = []
      · rw [last]
      · -- the digits behind the zero spell the same number
        have shorter : Spells rest.length n rest :=
          ⟨rfl, fun c member => figures.allDigits c (List.mem_cons_of_mem _ member), figures.value⟩
        have wide : 0 < rest.length := List.length_pos_iff.mpr last
        have short : (digits n).length ≤ rest.length :=
          (Nat.length_toDigits_le_iff (by decide) wide).mpr (shorter.lt wide)
        rw [written, List.length_cons] at short
        exact absurd short (Nat.not_succ_le_self _)

theorem Figures.digits_eq (figures : Figures n ds) (noZero : ds.head? = some '0' -> ds = ['0']) :
    digits n = ds := by
  have wide : 0 < ds.length := List.length_pos_iff.mpr figures.nonempty
  have spelled := figures.padded_eq wide
  rw [padded] at spelled
  cases zeros : ds.length - (digits n).length with
  | zero => rwa [zeros, List.replicate_zero, List.nil_append] at spelled
  | succ count =>
      rw [zeros, List.replicate_succ, List.cons_append] at spelled
      have single := noZero (by rw [← spelled]; rfl)
      rw [single] at zeros
      have some := List.length_pos_iff.mpr (figures_digits n).nonempty
      rw [List.length_singleton] at zeros
      omega

namespace Canonical

theorem numeral (canonical : Canonical z cs) : Numeral z cs := by
  cases canonical with
  | natural figures noZero => exact .unsigned (.bare figures)
  | negative figures noZero => exact .minus figures

/-- What is written is the only canonical numeral. -/
theorem text_eq (canonical : Canonical z cs) : text z = cs := by
  cases canonical with
  | natural figures noZero => exact figures.digits_eq noZero
  | @negative n ds figures noZero =>
      have written : digits n = ds := figures.digits_eq (fun first => absurd first noZero)
      cases n with
      | zero => exact absurd (written ▸ rfl) noZero
      | succ n =>
          rw [← written]
          rfl

end Canonical

theorem canonical_text (z : Int) : Canonical z (text z) := by
  cases z with
  | ofNat n => exact .natural (figures_digits n) digits_noZero
  | negSucc n =>
      apply Canonical.negative (figures_digits (n + 1))
      intro first
      have zero := digits_noZero first
      have value := (figures_digits (n + 1)).value
      rw [zero] at value
      cases value

end Writing

end Decimal
end ScopedSql
