import ScopedSql.Error

namespace ScopedSql
namespace Name

/-!
# Checked names

A name goes into a statement only through a check of its kind.
-/

/-- The name itself if it has the shape of its kind. -/
def check (kind : Kind) (name : String) : Except Error String :=
  if kind.accepts name.toList then .ok name else .error (.invalidName kind name)

/-- A name that passes is handed back unchanged. -/
theorem check_eq_ok_iff {kind : Kind} {name found : String} :
    check kind name = .ok found ↔ kind.accepts name.toList = true ∧ found = name := by
  unfold check
  split
  · rename_i accepted
    simp [accepted, eq_comm]
  · rename_i rejected
    simp [rejected]

end Name
end ScopedSql
