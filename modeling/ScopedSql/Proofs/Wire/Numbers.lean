import Mathlib.Data.Nat.Digits.Defs
import Mathlib.Data.Nat.Digits.Lemmas
import ScopedSql.Format.Render
import ScopedSql.Proofs.Decimal.Numerals
import ScopedSql.Proofs.Text.Utf8
import ScopedSql.Wire.Server

namespace ScopedSql
namespace Wire

/-!
# Numbers in cells

A whole number that arrives as text is displayed as it arrived, whether it fits
into 64 bits or not.  A bit field arrives as bytes, and its 64 bits are taken for
a number with a sign: no two bit fields are displayed alike unless they hold the
same number, but one whose first of 64 bits is set is displayed as a negative
number.
-/

/-! ## Types -/

theorem Reading.ofBase_of_integer {base : String} (named : base ∈ ["TINYINT", "SMALLINT",
    "MEDIUMINT", "INT", "INTEGER", "BIGINT", "YEAR"]) : Reading.ofBase base = .integer := by
  simp only [List.mem_cons, List.not_mem_nil, or_false] at named
  rcases named with rfl | rfl | rfl | rfl | rfl | rfl | rfl <;> decide

/-! ## Bit fields -/

section Bits

variable {bytes : List UInt8} {n : Nat}

/-- The number that bytes spell, the first byte having the highest weight. -/
def unsigned (bytes : List UInt8) : Nat :=
  Nat.ofDigits 256 (bytes.reverse.map UInt8.toNat)

theorem bigEndian_eq_unsigned (bytes : List UInt8) : bigEndian bytes = unsigned bytes := by
  induction bytes using List.reverseRecOn with
  | nil => rfl
  | append_singleton bytes byte inductionHypothesis =>
      rw [unsigned] at inductionHypothesis
      rw [bigEndian, List.foldl_append, ← bigEndian, inductionHypothesis, unsigned,
        List.reverse_append, List.reverse_singleton, List.singleton_append, List.map_cons,
        Nat.ofDigits_cons, List.foldl_cons, List.foldl_nil]
      omega

theorem unsigned_lt (narrow : bytes.length ≤ 8) : unsigned bytes < 2 ^ 64 := by
  have small : unsigned bytes < 256 ^ (bytes.reverse.map UInt8.toNat).length := by
    apply Nat.ofDigits_lt_base_pow_length (by decide)
    intro digit member
    rcases List.mem_map.mp member with ⟨byte, _, rfl⟩
    exact byte.toNat_lt
  rw [List.length_map, List.length_reverse] at small
  have word : (256 : Nat) ^ 8 = 2 ^ 64 := by simp only [Nat.reducePow]
  rw [← word]
  exact Nat.lt_of_lt_of_le small (Nat.pow_le_pow_right (by decide) narrow)

/-- A register of 64 bits into which bytes are shifted one after the other. -/
def register (bytes : List UInt8) : BitVec 64 :=
  bytes.foldl (fun held byte => held <<< 8 ||| byte.toBitVec.setWidth 64) 0

/-- What is shifted out at the top is lost, and nothing else. -/
theorem toNat_register (bytes : List UInt8) : (register bytes).toNat = unsigned bytes % 2 ^ 64 := by
  rw [← bigEndian_eq_unsigned]
  induction bytes using List.reverseRecOn with
  | nil => rfl
  | append_singleton bytes byte inductionHypothesis =>
      have held : register (bytes ++ [byte]) =
          register bytes <<< 8 ||| byte.toBitVec.setWidth 64 := List.foldl_concat ..
      have number : bigEndian (bytes ++ [byte]) = bigEndian bytes * 256 + byte.toNat :=
        List.foldl_concat ..
      have small : byte.toNat < 2 ^ 8 := byte.toNat_lt
      have shifted : (register bytes).toNat * 2 ^ 8 % 2 ^ 64 =
          2 ^ 8 * ((register bytes).toNat % 2 ^ 56) := by omega
      have fits : byte.toBitVec.toNat % 2 ^ 64 = byte.toNat :=
        Nat.mod_eq_of_lt (Nat.lt_trans small (by decide))
      -- the byte falls into the places that the shift has cleared
      rw [held, number, BitVec.toNat_or, BitVec.toNat_shiftLeft, BitVec.toNat_setWidth, fits,
        Nat.shiftLeft_eq, shifted, ← Nat.two_pow_add_eq_or_of_lt small]
      omega

theorem decode_of_bits {typeName : String} (named : baseName typeName = "BIT") (parseTime : Bool) :
    decode typeName parseTime bytes = .int (register bytes).toInt := by
  have reading : Reading.ofBase (baseName typeName) = .bits := by
    rw [named]
    decide
  have number : (register bytes).toInt = signed (bigEndian bytes) := by
    unfold signed
    rw [BitVec.toInt_eq_toNat_bmod, toNat_register, bigEndian_eq_unsigned, Int.natCast_emod,
      Int.emod_bmod, Nat.pow_eq]
  rw [number]
  simp only [decode, reading]

theorem toInt_register (narrow : bytes.length ≤ 8) : (register bytes).toInt =
    if unsigned bytes < 2 ^ 63 then (unsigned bytes : Int) else unsigned bytes - 2 ^ 64 := by
  rw [BitVec.toInt_eq_toNat_cond, toNat_register, Nat.mod_eq_of_lt (unsigned_lt narrow)]
  split
  · rw [if_pos (by omega)]
  · rw [if_neg (by omega)]
    rfl

theorem display_int (z : Int) : Decimal.Canonical z (Value.int z).display.toList := by
  rw [Value.display, String.toList_ofList]
  exact Decimal.canonical_text z

/-- A bit field is displayed as the number that it spells, if the first of 64 bits is not set, and
as a number below zero otherwise.  In either case the display tells the number. -/
theorem display_of_bits {typeName : String} (named : baseName typeName = "BIT") (parseTime : Bool)
    (narrow : bytes.length ≤ 8) :
    let shown := (decode typeName parseTime bytes).display
    (unsigned bytes < 2 ^ 63 -> Decimal.Canonical (unsigned bytes) shown.toList) ∧
      (2 ^ 63 ≤ unsigned bytes -> Decimal.Canonical (unsigned bytes - 2 ^ 64) shown.toList) ∧
      forall other, other.length ≤ 8 -> (decode typeName parseTime other).display = shown ->
        unsigned other = unsigned bytes := by
  rw [decode_of_bits named]
  refine ⟨?_, ?_, ?_⟩
  · intro small
    rw [toInt_register narrow, if_pos small]
    exact display_int _
  · intro large
    rw [toInt_register narrow, if_neg (Nat.not_lt.mpr large)]
    exact display_int _
  · intro other otherNarrow same
    have first := display_int (register bytes).toInt
    have second := display_int (register other).toInt
    rw [decode_of_bits named] at same
    rw [same] at second
    have number := second.numeral.unique first.numeral
    rw [toInt_register narrow, toInt_register otherNarrow] at number
    have below := unsigned_lt narrow
    have otherBelow := unsigned_lt otherNarrow
    split at number <;> split at number <;> omega

/-- The greatest bit field that is displayed as it is, and the next one. -/
theorem display_of_bits_at_limit :
    let greatest : List UInt8 := 0x7F :: List.replicate 7 0xFF
    let next : List UInt8 := 0x80 :: List.replicate 7 0
    baseName "BIT(64)" = "BIT" ∧ greatest.length ≤ 8 ∧ next.length ≤ 8 ∧
      unsigned greatest = 9223372036854775807 ∧ unsigned next = 9223372036854775808 ∧
      Decimal.Canonical (unsigned greatest) (decode "BIT(64)" false greatest).display.toList ∧
      Decimal.Canonical (unsigned next - 2 ^ 64) (decode "BIT(64)" false next).display.toList ∧
      (decode "BIT(64)" false greatest).display ≠ (decode "BIT(64)" false next).display := by
  intro greatest next
  have named : baseName "BIT(64)" = "BIT" := by decide +kernel
  have greatestNumber : unsigned greatest = 9223372036854775807 := by decide +kernel
  have nextNumber : unsigned next = 9223372036854775808 := by decide +kernel
  have greatestShown := display_of_bits named false (show greatest.length ≤ 8 by decide)
  have nextShown := display_of_bits named false (show next.length ≤ 8 by decide)
  refine ⟨named, by decide, by decide, greatestNumber, nextNumber, greatestShown.1 ?_,
    nextShown.2.1 ?_, ?_⟩
  · rw [greatestNumber]
    decide
  · rw [nextNumber]
    decide
  · intro same
    have number := nextShown.2.2 greatest (by decide) same
    rw [greatestNumber, nextNumber] at number
    cases number

/-- A bit field with 64 bits set is displayed as minus one. -/
theorem bits_below_zero :
    let bytes : List UInt8 := List.replicate 8 0xFF
    let columns : List Column := [⟨"flags", "BIT"⟩]
    let rules : Rules := ⟨[⟨"SELECT", [.rows [⟨columns, [some bytes]⟩]], none⟩], none, none⟩
    let server : Server := Server.withRules rules
    let session : Session := ⟨1, false, false⟩
    unsigned bytes = 18446744073709551615 ∧
      (decode "BIT" false bytes).display = "-1" ∧
      server.reached session = some rules ∧
      ((server.query "SELECT flags" session).1.bind (fun set => set.render .csv)).toOption =
        some "flags\n-1\n" := by
  refine ⟨?_, ?_, rfl, ?_⟩
  · decide +kernel
  · decide +kernel
  · decide +kernel

end Bits

/-! ## Whole numbers -/

/-- A whole number is kept as a number if it fits into 64 bits and as the same text otherwise, and
is displayed as it arrived in both cases. -/
theorem display_of_integer {typeName : String} (named : baseName typeName ∈ ["TINYINT",
    "SMALLINT", "MEDIUMINT", "INT", "INTEGER", "BIGINT", "YEAR"]) (parseTime : Bool) {z : Int}
    {text : String} (canonical : Decimal.Canonical z text.toList) :
    let value := decode typeName parseTime (Text.encode text)
    value = (if -2 ^ 63 ≤ z ∧ z < 2 ^ 63 then .int z else .text text) ∧ value.display = text := by
  intro value
  have read : value = readInteger text := by
    simp only [value, decode, Reading.ofBase_of_integer named, Text.lossy_encode]
  have positive : 0 < Nat.pow 2 63 := Nat.pow_pos (by decide)
  by_cases inRange : -2 ^ 63 ≤ z ∧ z < 2 ^ 63
  · have number : Decimal.readInt (Nat.pow 2 63) text.toList = .ok z :=
      (Decimal.readInt_eq_ok_iff positive).mpr ⟨canonical.numeral, inRange⟩
    have kept : value = .int z := by rw [read, readInteger, number]
    rw [kept, if_pos inRange, Value.display, canonical.text_eq, String.ofList_toList]
    exact ⟨rfl, rfl⟩
  · have kept : value = .text text := by
      rw [read, readInteger]
      split
      · rename_i other number
        have second := (Decimal.readInt_eq_ok_iff positive).mp number
        rw [← canonical.numeral.unique second.1] at second
        exact absurd second.2 inRange
      · rfl
    rw [kept, if_neg inRange]
    exact ⟨rfl, rfl⟩

/-- The least number of 64 bits, and a number that fits only without a sign. -/
theorem display_of_integer_at_limits :
    let least := "-9223372036854775808"
    let large := "18446744073709551615"
    let integers := ["TINYINT", "SMALLINT", "MEDIUMINT", "INT", "INTEGER", "BIGINT", "YEAR"]
    baseName "INT(11)" ∈ integers ∧ baseName "BIGINT UNSIGNED" ∈ integers ∧
      Decimal.Canonical (-9223372036854775808) least.toList ∧
      Decimal.Canonical 18446744073709551615 large.toList ∧
      decode "INT(11)" true (Text.encode least) = .int (-9223372036854775808) ∧
      decode "BIGINT UNSIGNED" false (Text.encode large) = .text large ∧
      (decode "BIGINT UNSIGNED" false (Text.encode large)).display = large := by
  intro least large integers
  have narrow : baseName "INT(11)" ∈ integers := by decide +kernel
  have wide : baseName "BIGINT UNSIGNED" ∈ integers := by decide +kernel
  have leastSpelled : Decimal.Canonical (-9223372036854775808) least.toList := by
    have figures : Decimal.Figures 9223372036854775808 "9223372036854775808".toList :=
      .of_all (by decide +kernel) (by decide +kernel) (by decide +kernel)
    have sign : least.toList = '-' :: "9223372036854775808".toList := by decide +kernel
    rw [sign]
    exact .negative figures (by decide +kernel)
  have largeSpelled : Decimal.Canonical 18446744073709551615 large.toList := by
    have figures : Decimal.Figures 18446744073709551615 large.toList :=
      .of_all (by decide +kernel) (by decide +kernel) (by decide +kernel)
    exact .natural figures (by decide +kernel)
  exact ⟨narrow, wide, leastSpelled, largeSpelled,
    (display_of_integer narrow true leastSpelled).1, (display_of_integer wide false largeSpelled)⟩

end Wire
end ScopedSql
