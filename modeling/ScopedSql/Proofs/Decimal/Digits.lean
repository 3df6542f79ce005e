import Mathlib.Algebra.Group.Nat.Defs
import Mathlib.Data.List.Induction
import ScopedSql.Decimal.Nearest

namespace ScopedSql
namespace Decimal

/-!
# Numbers of a fixed width

A run of digits spells one number, and of all runs of one length only one spells
it, which is the number written with zeros in front.
-/

theorem ofDigits_eq_ofDigitChars (ds : List Char) : ofDigits ds = Nat.ofDigitChars 10 ds 0 := by
  rw [ofDigits, Nat.ofDigitChars_eq_foldl]
  simp only [Nat.mul_comm]

theorem ofDigits_concat (ds : List Char) (c : Char) :
    ofDigits (ds ++ [c]) = ofDigits ds * 10 + (c.toNat - '0'.toNat) :=
  List.foldl_append

theorem isDigit_iff (c : Char) : c.isDigit = true ↔ 48 ≤ c.toNat ∧ c.toNat ≤ 57 := by
  delta Char.isDigit
  simp only [Bool.and_eq_true, decide_eq_true_eq]
  exact Iff.rfl

theorem digit_lt {c : Char} (digit : c.isDigit = true) : c.toNat - '0'.toNat < 10 := by
  have bounds := (isDigit_iff c).mp digit
  change c.toNat - 48 < 10
  omega

theorem digitChar_of_isDigit {c : Char} (digit : c.isDigit = true) :
    Nat.digitChar (c.toNat - '0'.toNat) = c := by
  have bounds := (isDigit_iff c).mp digit
  change Nat.digitChar (c.toNat - 48) = c
  rw [← Char.toNat_inj, Nat.toNat_digitChar_of_lt_ten (by omega)]
  omega

/-- Digits of a given number that spell a given number. -/
structure Spells (width n : Nat) (ds : List Char) : Prop where
  length : ds.length = width
  allDigits : forall c, c ∈ ds -> c.isDigit = true
  value : ofDigits ds = n

section Padded

variable {width n : Nat}

theorem isDigit_of_mem_padded {c : Char} (member : c ∈ padded width n) : c.isDigit = true := by
  rcases List.mem_append.mp member with zero | digit
  · rw [List.eq_of_mem_replicate zero]
    rfl
  · exact Nat.isDigit_of_mem_toDigits (by decide) (by decide) digit

theorem ofDigits_padded (width n : Nat) : ofDigits (padded width n) = n := by
  rw [ofDigits_eq_ofDigitChars, padded, Nat.ofDigitChars_append,
    Nat.ofDigitChars_replicate_zero, Nat.mul_zero]
  exact Nat.ofDigitChars_ten_toDigits

theorem padded_ne_nil (width n : Nat) : padded width n ≠ [] :=
  List.append_ne_nil_of_right_ne_nil _ Nat.toDigits_ne_nil

theorem length_padded (wide : 0 < width) (small : n < 10 ^ width) :
    (padded width n).length = width := by
  have fits : (digits n).length ≤ width :=
    (Nat.length_toDigits_le_iff (by decide) wide).mpr small
  rw [padded, List.length_append, List.length_replicate]
  omega

theorem spells_padded (wide : 0 < width) (small : n < 10 ^ width) :
    Spells width n (padded width n) where
  length := length_padded wide small
  allDigits := fun _ member => isDigit_of_mem_padded member
  value := ofDigits_padded width n

/-- One place more takes up the last digit. -/
theorem padded_succ (wide : 0 < width) (n : Nat) :
    padded (width + 1) n = padded width (n / 10) ++ [Nat.digitChar (n % 10)] := by
  by_cases single : n < 10
  · have first : digits n = [Nat.digitChar n] := Nat.toDigits_of_lt_base single
    have zero : digits 0 = ['0'] := Nat.toDigits_zero 10
    rw [padded, padded, Nat.div_eq_of_lt single, Nat.mod_eq_of_lt single, first, zero]
    change List.replicate width '0' ++ _ = (List.replicate (width - 1) '0' ++ ['0']) ++ _
    rw [← List.replicate_succ', Nat.sub_add_cancel wide]
  · have last : digits n = digits (n / 10) ++ [Nat.digitChar (n % 10)] :=
      Nat.toDigits_of_base_le (by decide) (Nat.le_of_not_lt single)
    rw [padded, padded, last, List.length_append, List.length_singleton, Nat.add_sub_add_right,
      List.append_assoc]

end Padded

namespace Spells

variable {width n : Nat} {ds : List Char}

theorem ne_nil (spells : Spells width n ds) (wide : 0 < width) : ds ≠ [] := by
  rintro rfl
  exact absurd spells.length (Nat.ne_of_lt wide)

/-- There is only one way to spell a number in a given width. -/
theorem padded_eq (spells : Spells width n ds) (wide : 0 < width) : padded width n = ds := by
  rcases spells with ⟨rfl, allDigits, rfl⟩
  induction ds using List.reverseRecOn with
  | nil => exact absurd wide (Nat.lt_irrefl 0)
  | append_singleton ds c inductionHypothesis =>
      have digit := allDigits c (List.mem_append.mpr (Or.inr List.mem_cons_self))
      have last := digit_lt digit
      rw [ofDigits_concat, List.length_append, List.length_singleton]
      by_cases first : ds = []
      · subst first
        have single : digits (c.toNat - '0'.toNat) = [c] := by
          rw [digits, Nat.toDigits_of_lt_base last, digitChar_of_isDigit digit]
        rw [show ofDigits [] = 0 from rfl, Nat.zero_mul, Nat.zero_add, padded, single]
        rfl
      · have wide := List.length_pos_iff.mpr first
        have before := inductionHypothesis
          (fun d member => allDigits d (List.mem_append.mpr (Or.inl member))) wide
        have front : (ofDigits ds * 10 + (c.toNat - '0'.toNat)) / 10 = ofDigits ds := by omega
        have back : (ofDigits ds * 10 + (c.toNat - '0'.toNat)) % 10 = c.toNat - '0'.toNat := by
          omega
        rw [padded_succ wide, front, back, before,
          digitChar_of_isDigit digit]

theorem lt (spells : Spells width n ds) (wide : 0 < width) : n < 10 ^ width := by
  have length := spells.length
  rw [← spells.padded_eq wide, padded, List.length_append] at length
  apply (Nat.length_toDigits_le_iff (by decide) wide).mp
  change (digits n).length ≤ width
  omega

end Spells

end Decimal
end ScopedSql
