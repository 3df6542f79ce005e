namespace ScopedSql
namespace Text

/-!
# Ranges of characters

A property of characters is given by a list of inclusive ranges of their
numbers, in ascending order.  The properties themselves are those of Unicode 17.
-/

def inRanges (n : Nat) (ranges : List (Nat × Nat)) : Bool :=
  ranges.any (fun range => range.1 ≤ n && n ≤ range.2)

end Text
end ScopedSql
