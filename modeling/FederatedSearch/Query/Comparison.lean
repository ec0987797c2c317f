/-!
# Comparisons

The six ways in which a clause of a query compares the value of a field with a value of its own.
-/

namespace FederatedSearch.Query

/-- A comparison of a field value with the value of a clause. -/
inductive Comparison where
  /-- Equal. -/
  | eq
  /-- Different. -/
  | ne
  /-- Less. -/
  | lt
  /-- Less or equal. -/
  | le
  /-- Greater. -/
  | gt
  /-- Greater or equal. -/
  | ge
  deriving DecidableEq, Repr

namespace Comparison

/-- The symbol in a query. -/
def symbol : Comparison → String
  | .eq => "="
  | .ne => "<>"
  | .lt => "<"
  | .le => "<="
  | .gt => ">"
  | .ge => ">="

/-- **The comparison holds** of a field value and a clause value in this order. -/
def accepts : Comparison → Ordering → Bool
  | .eq, o => o == .eq
  | .ne, o => o != .eq
  | .lt, o => o == .lt
  | .le, o => o != .gt
  | .gt, o => o == .gt
  | .ge, o => o != .lt

end Comparison

end FederatedSearch.Query
