import FederatedSearch.Text.Order

/-!
# The order of texts is a total one

The order of texts is the lexicographic one of their scalar values, so it is oriented and
transitive, as that of the scalar values is.
-/

namespace FederatedSearch.Text

theorem cmpChars_eq_compareLex (cs ds : List Char) :
    cmpChars cs ds = List.compareLex (compareOn Char.toNat) cs ds := by
  induction cs generalizing ds with
  | nil => cases ds <;> rfl
  | cons c cs ih =>
    cases ds with
    | nil => rfl
    | cons d ds => rw [cmpChars, ih, List.compareLex_cons_cons, compareOn]

instance : Std.TransCmp cmpChars where
  eq_swap := by
    simp only [cmpChars_eq_compareLex]
    exact Std.OrientedCmp.eq_swap
  isLE_trans := by
    simp only [cmpChars_eq_compareLex]
    exact Std.TransCmp.isLE_trans

instance : Std.TransCmp cmpText where
  eq_swap := by
    simp only [cmpText]
    exact Std.OrientedCmp.eq_swap
  isLE_trans := by
    simp only [cmpText]
    exact Std.TransCmp.isLE_trans

end FederatedSearch.Text
