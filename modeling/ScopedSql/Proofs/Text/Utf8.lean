import ScopedSql.Text.Utf8

namespace ScopedSql
namespace Text

/-!
# Texts in bytes and back

The bytes of a text decode to its characters, one for one, whatever bytes
follow.  So no reader of bytes can tell a text from its encoding: the strict
reader accepts it, and the lenient one replaces nothing.
-/

/-! ## One byte at a time -/

section Steps

variable {byte : UInt8} {rest : List UInt8} {owed low high bits : Nat}

theorem decodeFrom_single (plain : byte.toNat < 0x80) :
    decodeFrom 0 0 0 0 (byte :: rest) =
      some (Char.ofNat byte.toNat) :: decodeFrom 0 0 0 0 rest := by
  have lead : leadByte? byte.toNat = some (0, 0, 0, byte.toNat) := by rw [leadByte?, if_pos plain]
  simp only [decodeFrom, ne_eq, not_true_eq_false, false_and, if_false, if_true, List.nil_append,
    lead]

theorem decodeFrom_lead (lead : leadByte? byte.toNat = some (owed + 1, low, high, bits)) :
    decodeFrom 0 0 0 0 (byte :: rest) = decodeFrom (owed + 1) low high bits rest := by
  simp only [decodeFrom, ne_eq, not_true_eq_false, false_and, if_false, if_true, List.nil_append,
    lead]

theorem decodeFrom_next (inRange : low ≤ byte.toNat ∧ byte.toNat ≤ high) :
    decodeFrom (owed + 2) low high bits (byte :: rest) =
      decodeFrom (owed + 1) 0x80 0xBF (bits * 64 + (byte.toNat - 0x80)) rest := by
  rw [decodeFrom, if_pos ⟨Nat.succ_ne_zero _, inRange⟩, if_neg (by omega)]
  rfl

theorem decodeFrom_last (inRange : low ≤ byte.toNat ∧ byte.toNat ≤ high) :
    decodeFrom 1 low high bits (byte :: rest) =
      some (Char.ofNat (bits * 64 + (byte.toNat - 0x80))) :: decodeFrom 0 0 0 0 rest := by
  rw [decodeFrom, if_pos ⟨Nat.one_ne_zero, inRange⟩, if_pos rfl]

end Steps

/-! ## One character at a time -/

section Characters

variable {v : Nat} {rest : List UInt8}

/-- The bound in the form in which it is found by arithmetic. -/
theorem toNat_ofNat_of_lt {n : Nat} (small : n < 256) : (UInt8.ofNat n).toNat = n :=
  UInt8.toNat_ofNat_of_lt' small

theorem decodeFrom_two (large : 0x7F < v) (small : v ≤ 0x7FF) :
    decodeFrom 0 0 0 0 (UInt8.ofNat (v / 64 % 32 + 192) :: UInt8.ofNat (v % 64 + 128) :: rest) =
      some (Char.ofNat v) :: decodeFrom 0 0 0 0 rest := by
  have first : (UInt8.ofNat (v / 64 % 32 + 192)).toNat = v / 64 % 32 + 192 :=
    toNat_ofNat_of_lt (by omega)
  have second : (UInt8.ofNat (v % 64 + 128)).toNat = v % 64 + 128 := toNat_ofNat_of_lt (by omega)
  have lead : leadByte? (v / 64 % 32 + 192) = some (1, 0x80, 0xBF, v / 64) := by
    rw [leadByte?, if_neg (by omega), if_pos (by omega)]
    have bits : v / 64 % 32 + 192 - 0xC0 = v / 64 := by omega
    rw [bits]
  have code : v / 64 * 64 + (v % 64 + 128 - 0x80) = v := by omega
  rw [decodeFrom_lead (first.symm ▸ lead), decodeFrom_last (by omega), second, code]

/-- Three bytes spell no half of a pair, so the range of the second byte never cuts one off. -/
theorem leadByte?_three (large : 0x7FF < v) (small : v ≤ 0xFFFF)
    (whole : v < 0xD800 ∨ 0xDFFF < v) :
    exists low high, leadByte? (v / 4096 % 16 + 224) = some (2, low, high, v / 4096) ∧
      low ≤ v / 64 % 64 + 128 ∧ v / 64 % 64 + 128 ≤ high := by
  rw [leadByte?, if_neg (by omega), if_neg (by omega)]
  split
  · exact ⟨0xA0, 0xBF, by rw [show v / 4096 = 0 by omega], by omega, by omega⟩
  split
  · exact ⟨0x80, 0x9F, by rw [show v / 4096 = 0x0D by omega], by omega, by omega⟩
  · rw [if_pos (by omega)]
    exact ⟨0x80, 0xBF, by rw [show v / 4096 % 16 + 224 - 0xE0 = v / 4096 by omega], by omega,
      by omega⟩

theorem decodeFrom_three (large : 0x7FF < v) (small : v ≤ 0xFFFF)
    (whole : v < 0xD800 ∨ 0xDFFF < v) :
    decodeFrom 0 0 0 0 (UInt8.ofNat (v / 4096 % 16 + 224) :: UInt8.ofNat (v / 64 % 64 + 128) ::
        UInt8.ofNat (v % 64 + 128) :: rest) =
      some (Char.ofNat v) :: decodeFrom 0 0 0 0 rest := by
  have first : (UInt8.ofNat (v / 4096 % 16 + 224)).toNat = v / 4096 % 16 + 224 :=
    toNat_ofNat_of_lt (by omega)
  have second : (UInt8.ofNat (v / 64 % 64 + 128)).toNat = v / 64 % 64 + 128 :=
    toNat_ofNat_of_lt (by omega)
  have third : (UInt8.ofNat (v % 64 + 128)).toNat = v % 64 + 128 := toNat_ofNat_of_lt (by omega)
  rcases leadByte?_three large small whole with ⟨low, high, lead, above, below⟩
  have code : (v / 4096 * 64 + (v / 64 % 64 + 128 - 0x80)) * 64 + (v % 64 + 128 - 0x80) = v := by
    omega
  rw [decodeFrom_lead (first.symm ▸ lead), decodeFrom_next (second.symm ▸ ⟨above, below⟩),
    decodeFrom_last (by omega), second, third, code]

/-- Four bytes spell no number beyond the last character. -/
theorem leadByte?_four (large : 0xFFFF < v) (small : v < 0x110000) :
    exists low high, leadByte? (v / 262144 % 8 + 240) = some (3, low, high, v / 262144) ∧
      low ≤ v / 4096 % 64 + 128 ∧ v / 4096 % 64 + 128 ≤ high := by
  rw [leadByte?, if_neg (by omega), if_neg (by omega), if_neg (by omega), if_neg (by omega),
    if_neg (by omega)]
  split
  · exact ⟨0x90, 0xBF, by rw [show v / 262144 = 0 by omega], by omega, by omega⟩
  split
  · exact ⟨0x80, 0xBF, by rw [show v / 262144 % 8 + 240 - 0xF0 = v / 262144 by omega], by omega,
      by omega⟩
  · rw [if_pos (by omega)]
    exact ⟨0x80, 0x8F, by rw [show v / 262144 = 4 by omega], by omega, by omega⟩

theorem decodeFrom_four (large : 0xFFFF < v) (small : v < 0x110000) :
    decodeFrom 0 0 0 0 (UInt8.ofNat (v / 262144 % 8 + 240) :: UInt8.ofNat (v / 4096 % 64 + 128) ::
        UInt8.ofNat (v / 64 % 64 + 128) :: UInt8.ofNat (v % 64 + 128) :: rest) =
      some (Char.ofNat v) :: decodeFrom 0 0 0 0 rest := by
  have first : (UInt8.ofNat (v / 262144 % 8 + 240)).toNat = v / 262144 % 8 + 240 :=
    toNat_ofNat_of_lt (by omega)
  have second : (UInt8.ofNat (v / 4096 % 64 + 128)).toNat = v / 4096 % 64 + 128 :=
    toNat_ofNat_of_lt (by omega)
  have third : (UInt8.ofNat (v / 64 % 64 + 128)).toNat = v / 64 % 64 + 128 :=
    toNat_ofNat_of_lt (by omega)
  have fourth : (UInt8.ofNat (v % 64 + 128)).toNat = v % 64 + 128 := toNat_ofNat_of_lt (by omega)
  rcases leadByte?_four large small with ⟨low, high, lead, above, below⟩
  have code : ((v / 262144 * 64 + (v / 4096 % 64 + 128 - 0x80)) * 64 +
      (v / 64 % 64 + 128 - 0x80)) * 64 + (v % 64 + 128 - 0x80) = v := by
    omega
  rw [decodeFrom_lead (first.symm ▸ lead), decodeFrom_next (second.symm ▸ ⟨above, below⟩),
    decodeFrom_next (by omega), decodeFrom_last (by omega), second, third, fourth, code]

end Characters

/-- The bytes of a character decode to it, whatever follows. -/
theorem decodeFrom_utf8EncodeChar (c : Char) (rest : List UInt8) :
    decodeFrom 0 0 0 0 (String.utf8EncodeChar c ++ rest) = some c :: decodeFrom 0 0 0 0 rest := by
  have whole : c.toNat < 0xD800 ∨ 0xDFFF < c.toNat := c.valid.imp id And.left
  have small : c.toNat < 0x110000 := by
    rcases c.valid with low | high
    · exact Nat.lt_trans low (by decide)
    · exact high.2
  have code : some (Char.ofNat c.toNat) = some c := by rw [Char.ofNat_toNat]
  rw [← code, String.utf8EncodeChar]
  simp only [Char.toNat_val]
  split
  · have single : (UInt8.ofNat c.toNat).toNat = c.toNat := toNat_ofNat_of_lt (by omega)
    rw [List.singleton_append, decodeFrom_single (by omega), single]
  split
  · exact decodeFrom_two (by omega) ‹_›
  split
  · exact decodeFrom_three (by omega) ‹_› whole
  · exact decodeFrom_four (by omega) small

/-! ## Whole texts -/

theorem toList_loop (bytes : ByteArray) (start : Nat) (taken : List UInt8) :
    ByteArray.toList.loop bytes start taken = taken.reverse ++ bytes.data.toList.drop start := by
  fun_induction ByteArray.toList.loop bytes start taken with
  | case1 start taken inside inductionHypothesis =>
      have listed : start < bytes.data.toList.length := inside
      have next : bytes.get! start = bytes.data.toList[start] := by
        change bytes.data[start]! = _
        rw [getElem!_pos bytes.data start inside, Array.getElem_toList]
      rw [inductionHypothesis, List.drop_eq_getElem_cons listed, List.reverse_cons,
        List.append_assoc, next]
      rfl
  | case2 start taken outside =>
      have nothing : bytes.data.toList.drop start = [] :=
        List.drop_eq_nil_of_le (Nat.le_of_not_lt outside)
      rw [nothing, List.append_nil]

theorem encode_eq (s : String) : encode s = s.toList.flatMap String.utf8EncodeChar := by
  have bytes : s.toUTF8 = (s.toList.flatMap String.utf8EncodeChar).toByteArray := by
    rw [String.toUTF8_eq_toByteArray, ← List.utf8Encode, ← String.toByteArray_ofList,
      String.ofList_toList]
  rw [encode, bytes, ByteArray.toList, toList_loop, List.toList_data_toByteArray]
  rfl

/-- A text is decoded as it was encoded. -/
theorem decode_encode (s : String) : decode (encode s) = s.toList.map some := by
  rw [encode_eq, decode]
  induction s.toList with
  | nil => rfl
  | cons c cs inductionHypothesis =>
      rw [List.flatMap_cons, decodeFrom_utf8EncodeChar, inductionHypothesis, List.map_cons]

theorem lossy_encode (s : String) : lossy (encode s) = s := by
  rw [lossy, decode_encode, List.map_map]
  change String.ofList (s.toList.map (fun c => c)) = s
  rw [List.map_id', String.ofList_toList]

theorem strict?_encode (s : String) : strict? (encode s) = some s := by
  have read : (s.toList.map some).mapM id = some s.toList := by
    induction s.toList with
    | nil => rfl
    | cons c cs inductionHypothesis =>
        rw [List.map_cons, List.mapM_cons, inductionHypothesis]
        rfl
  rw [strict?, decode_encode, read, Option.map_some, String.ofList_toList]

end Text
end ScopedSql
