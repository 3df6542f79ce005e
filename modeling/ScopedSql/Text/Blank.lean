namespace ScopedSql
namespace Text

/-!
# White space, case and search

The characters that count as white space are those with the Unicode property
`White_Space`.  Letters change case in the ASCII range only, and a search is
for a contiguous run of characters.

Every operation on text is defined on its list of characters; the versions on
`String` only pack and unpack that list.
-/

/-- The characters with the property `White_Space`. -/
def isBlank (c : Char) : Bool :=
  let n := c.toNat
  (9 ≤ n && n ≤ 13) || n == 0x20 || n == 0x85 || n == 0xA0 || n == 0x1680 ||
    (0x2000 ≤ n && n ≤ 0x200A) || n == 0x2028 || n == 0x2029 || n == 0x202F ||
    n == 0x205F || n == 0x3000

/-- Drop the characters of one kind from the end. -/
def dropEndWhile (drop : Char -> Bool) (cs : List Char) : List Char :=
  (cs.reverse.dropWhile drop).reverse

/-- Drop the characters of one kind from both ends. -/
def strip (drop : Char -> Bool) (cs : List Char) : List Char :=
  dropEndWhile drop (cs.dropWhile drop)

theorem dropEndWhile_prefix (drop : Char -> Bool) (cs : List Char) :
    dropEndWhile drop cs <+: cs := by
  have shorter : cs.reverse.dropWhile drop <:+ cs.reverse := List.dropWhile_suffix drop
  rwa [← List.reverse_prefix, List.reverse_reverse] at shorter

/-- The end is dropped from what follows a character that stays. -/
theorem dropEndWhile_append_of_stays (drop : Char -> Bool) {mark : Char}
    (stays : drop mark = false) (before after : List Char) :
    dropEndWhile drop (before ++ mark :: after) = before ++ mark :: dropEndWhile drop after := by
  rw [dropEndWhile, List.reverse_append, List.reverse_cons, List.append_assoc,
    List.dropWhile_append]
  split
  · rename_i empty
    rw [List.singleton_append, List.dropWhile_cons_of_neg (by rw [stays]; exact Bool.false_ne_true),
      dropEndWhile, List.isEmpty_iff.mp empty]
    simp
  · rw [dropEndWhile]
    simp

theorem dropEndWhile_concat_of_stays (drop : Char -> Bool) {last : Char}
    (stays : drop last = false) (cs : List Char) :
    dropEndWhile drop (cs ++ [last]) = cs ++ [last] :=
  dropEndWhile_append_of_stays drop stays cs []

theorem dropEndWhile_concat_of_drop (drop : Char -> Bool) {last : Char}
    (drops : drop last = true) (cs : List Char) :
    dropEndWhile drop (cs ++ [last]) = dropEndWhile drop cs := by
  simp [dropEndWhile, drops]

/-- Nothing is dropped between two ends that stay. -/
theorem strip_of_ends_stay {drop : Char -> Bool} {first last : Char}
    (firstStays : drop first = false) (lastStays : drop last = false) (middle : List Char) :
    strip drop (first :: (middle ++ [last])) = first :: (middle ++ [last]) := by
  rw [strip, List.dropWhile_cons_of_neg (by rw [firstStays]; exact Bool.false_ne_true)]
  exact dropEndWhile_concat_of_stays drop lastStays (first :: middle)

/-- The characters without white space at either end. -/
def trimmed (cs : List Char) : List Char :=
  strip isBlank cs

def trim (s : String) : String :=
  String.ofList (trimmed s.toList)

/-- A text is blank if it holds white space only, or nothing. -/
def blank (s : String) : Bool :=
  s.toList.all isBlank

/-- ASCII letters become capitals; all else stays. -/
def upper (s : String) : String :=
  String.ofList (s.toList.map Char.toUpper)

/-- ASCII letters become small; all else stays. -/
def lower (s : String) : String :=
  String.ofList (s.toList.map Char.toLower)

/-- Does the pattern stand somewhere in the characters, as one run? -/
def occurs (pattern : List Char) : List Char -> Bool
  | [] => pattern.isEmpty
  | c :: rest => pattern.isPrefixOf (c :: rest) || occurs pattern rest

/-- Does the pattern stand somewhere in the text?  An empty pattern always does. -/
def contains (text pattern : String) : Bool :=
  occurs pattern.toList text.toList

/-- The rest after a beginning, if the characters begin so. -/
def after? : List Char -> List Char -> Option (List Char)
  | [], rest => some rest
  | _ :: _, [] => none
  | b :: beginning, c :: rest => if b = c then after? beginning rest else none

theorem after?_append (beginning rest : List Char) :
    after? beginning (beginning ++ rest) = some rest := by
  induction beginning with
  | nil => cases rest <;> rfl
  | cons b beginning inductionHypothesis =>
      rw [List.cons_append, after?, if_pos rfl, inductionHypothesis]

/-- The pieces between the occurrences of a separator: one more than there are separators. -/
def splitOn (separator : Char) : List Char -> List (List Char)
  | [] => [[]]
  | c :: rest =>
    if c = separator then [] :: splitOn separator rest
    else
      match splitOn separator rest with
      | [] => [[c]]
      | piece :: pieces => (c :: piece) :: pieces

/-- The characters before and after the last occurrence of a separator. -/
def splitAtLast? (separator : Char) (cs : List Char) : Option (List Char × List Char) :=
  if cs.contains separator then
    let after := (cs.reverse.takeWhile (fun c => c ≠ separator)).reverse
    some (cs.take (cs.length - after.length - 1), after)
  else none

end Text
end ScopedSql
