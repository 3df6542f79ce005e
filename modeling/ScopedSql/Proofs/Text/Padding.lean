import Mathlib.Data.List.TakeWhile
import ScopedSql.Proofs.Decimal.Numerals
import ScopedSql.Text.Blank

namespace ScopedSql

/-!
# Texts with white space around them

A text is padded if white space stands before and after its core.  Trimming
finds the core of a padded text, provided that the core has no white space of
its own; words that are known by their small letters and numerals have none.
-/

namespace Text

/-! ## White space around a text -/

/-- A text with white space around its core. -/
inductive Padded (core : List Char) (value : String) : Prop
  | around {before after : List Char} (text : value.toList = before ++ (core ++ after))
      (blankBefore : forall c, c ∈ before -> isBlank c = true)
      (blankAfter : forall c, c ∈ after -> isBlank c = true) : Padded core value

/-- There is something, and none of it is white space. -/
structure Solid (core : List Char) : Prop where
  nonempty : core ≠ []
  notBlank : forall c, c ∈ core -> isBlank c = false

section Padding

variable {core : List Char} {value : String}

theorem solid_of_all (nonempty : core ≠ []) (ink : core.all (fun c => !isBlank c) = true) :
    Solid core where
  nonempty := nonempty
  notBlank := by
    intro c member
    have marked := List.all_eq_true.mp ink c member
    rwa [Bool.not_eq_true'] at marked

theorem Solid.reverse (solid : Solid core) : Solid core.reverse where
  nonempty := List.reverse_ne_nil_iff.mpr solid.nonempty
  notBlank := fun c member => solid.notBlank c (List.mem_reverse.mp member)

theorem Solid.dropWhile_padded (solid : Solid core) {before : List Char}
    (blankBefore : forall c, c ∈ before -> isBlank c = true) (rest : List Char) :
    (before ++ (core ++ rest)).dropWhile isBlank = core ++ rest := by
  rcases List.exists_cons_of_ne_nil solid.nonempty with ⟨c, others, rfl⟩
  have ink := solid.notBlank c List.mem_cons_self
  rw [List.dropWhile_append_of_pos blankBefore, List.cons_append,
    List.dropWhile_cons_of_neg (by rw [ink]; exact Bool.false_ne_true)]

namespace Padded

theorem trimmed_eq (padded : Padded core value) (solid : Solid core) :
    trimmed value.toList = core := by
  rcases padded with ⟨text, blankBefore, blankAfter⟩
  rename_i before after
  have backwards : forall c, c ∈ after.reverse -> isBlank c = true :=
    fun c member => blankAfter c (List.mem_reverse.mp member)
  have flipped : (core ++ after).reverse = after.reverse ++ (core.reverse ++ []) := by
    rw [List.reverse_append, List.append_nil]
  rw [trimmed, strip, text, solid.dropWhile_padded blankBefore, dropEndWhile, flipped,
    solid.reverse.dropWhile_padded backwards, List.append_nil, List.reverse_reverse]

theorem not_blank (padded : Padded core value) (solid : Solid core) : blank value = false := by
  rcases padded with ⟨text, _, _⟩
  rcases List.exists_mem_of_ne_nil core solid.nonempty with ⟨c, member⟩
  rw [blank, text]
  apply List.all_eq_false.mpr
  refine ⟨c, List.mem_append_right _ (List.mem_append_left _ member), ?_⟩
  rw [solid.notBlank c member]
  exact Bool.false_ne_true

end Padded

theorem padded_self (value : String) : Padded value.toList value := by
  have none : forall c, c ∈ ([] : List Char) -> isBlank c = true :=
    fun c member => (List.not_mem_nil member).elim
  exact .around (by rw [List.nil_append, List.append_nil]) none none

/-- What is trimmed off is white space. -/
theorem padded_trimmed (value : String) : Padded (trimmed value.toList) value := by
  have front := value.toList.takeWhile_append_dropWhile (p := isBlank)
  have back := (value.toList.dropWhile isBlank).reverse.takeWhile_append_dropWhile (p := isBlank)
  have text : value.toList = value.toList.takeWhile isBlank ++ (trimmed value.toList ++
      ((value.toList.dropWhile isBlank).reverse.takeWhile isBlank).reverse) := by
    rw [trimmed, strip, dropEndWhile, ← List.reverse_append, back, List.reverse_reverse, front]
  refine .around text ?_ ?_
  · intro c member
    exact List.mem_takeWhile_imp member
  · intro c member
    exact List.mem_takeWhile_imp (List.mem_reverse.mp member)

end Padding

theorem toLower_of_isBlank {c : Char} (white : isBlank c = true) : c.toLower = c := by
  have noCapital : ¬ (65 ≤ c.toNat ∧ c.toNat ≤ 90) := by
    intro capital
    simp only [isBlank, Bool.or_eq_true, Bool.and_eq_true, decide_eq_true_eq, beq_iff_eq] at white
    omega
  unfold Char.toLower
  exact dif_neg noCapital

/-- White space stays white space in any case, so a word has none if its small letters have none. -/
theorem solid_of_lower {core : List Char} (solid : Solid (lower (String.ofList core)).toList) :
    Solid core := by
  rw [lower, String.toList_ofList, String.toList_ofList] at solid
  constructor
  · exact mt List.map_eq_nil_iff.mpr solid.nonempty
  · intro c member
    cases white : isBlank c with
    | false => rfl
    | true =>
        have small := solid.notBlank c.toLower (List.mem_map_of_mem member)
        rw [toLower_of_isBlank white, white] at small
        cases small

end Text

namespace Decimal

open Text (Solid)

theorem Figures.solid {n : Nat} {ds : List Char} (figures : Figures n ds) : Solid ds where
  nonempty := figures.nonempty
  notBlank := by
    intro c member
    have digit := (isDigit_iff c).mp (figures.allDigits c member)
    cases white : Text.isBlank c with
    | false => rfl
    | true =>
        simp only [Text.isBlank, Bool.or_eq_true, Bool.and_eq_true, decide_eq_true_eq, beq_iff_eq]
          at white
        omega

theorem solid_cons {sign : Char} {n : Nat} {ds : List Char} (ink : Text.isBlank sign = false)
    (figures : Figures n ds) : Solid (sign :: ds) where
  nonempty := List.cons_ne_nil sign ds
  notBlank := List.forall_mem_cons.mpr ⟨ink, figures.solid.notBlank⟩

theorem Numeral.solid {z : Int} {cs : List Char} (numeral : Numeral z cs) : Solid cs := by
  cases numeral with
  | unsigned numeral =>
      cases numeral with
      | bare figures => exact figures.solid
      | plus figures => exact solid_cons rfl figures
  | minus figures => exact solid_cons rfl figures

end Decimal

end ScopedSql
