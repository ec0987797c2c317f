import FederatedSearch.Number.Binary64
import Mathlib.Algebra.Order.Ring.Int
import Mathlib.Order.Compare

/-!
# The order of floating-point numbers

Two numbers are compared on the grid of the finer one, so three of them are compared on three
grids. One grid that is fine enough for all of them gives every number a place, and their order is
that of the places (`FederatedSearch.Number.Binary64.compare?_eq_place`). So the order is oriented
and transitive, and defined but for the value that is no number.

* `FederatedSearch.Number.Binary64.place`: the place of a number on a grid, the infinities being
  outside.
* `FederatedSearch.Number.Binary64.compare?_swap`, `isSome_compare?_iff`, `compare?_trans`.
-/

namespace FederatedSearch.Number

theorem twoTo_add (k l : Nat) : twoTo (k + l) = twoTo k * twoTo l := Nat.pow_add 2 k l

namespace Binary64

/-! ### A finer grid -/

/-- On a grid that is finer by a power of two, a number has as many times its mantissa. -/
theorem onGrid_sub (s : Bool) (m : Nat) {e g : Int} (hg : g ≤ e) (k : Nat) :
    onGrid s m e (g - k) = onGrid s m e g * twoTo k := by
  have hpow : (e - (g - k)).toNat = (e - g).toNat + k := by omega
  unfold onGrid
  rw [hpow, twoTo_add, ← Nat.mul_assoc]
  cases s <;> simp

/-- **Two numbers compare on every grid that is fine enough as they do on their own.** -/
theorem compareFinite_eq_onGrid {s t : Bool} {m n : Nat} {e f g : Int} (he : g ≤ e) (hf : g ≤ f) :
    compareFinite s m e t n f = compare (onGrid s m e g) (onGrid t n f g) := by
  obtain ⟨k, hk⟩ : ∃ k : Nat, g = min e f - k := ⟨(min e f - g).toNat, by omega⟩
  have hpos : (0 : Int) < twoTo k := by exact_mod_cast twoTo_pos k
  rw [hk, onGrid_sub s m (Int.min_le_left e f), onGrid_sub t n (Int.min_le_right e f)]
  unfold compareFinite
  generalize onGrid s m e (min e f) = a
  generalize onGrid t n f (min e f) = b
  rcases Int.lt_trichotomy a b with h | h | h
  · rw [compare_lt_iff_lt.2 h, compare_lt_iff_lt.2 (Int.mul_lt_mul_of_pos_right h hpos)]
  · rw [h]; simp
  · rw [compare_gt_iff_gt.2 h, compare_gt_iff_gt.2 (Int.mul_lt_mul_of_pos_right h hpos)]

/-! ### Places -/

/-- The grid is fine enough for the number. -/
def FitsGrid (g : Int) : Binary64 → Prop
  | .finite _ _ e => g ≤ e
  | _ => True

/-- Three numbers have a grid in common. -/
theorem exists_fitsGrid (x y z : Binary64) :
    ∃ g, x.FitsGrid g ∧ y.FitsGrid g ∧ z.FitsGrid g := by
  let least : Binary64 → Int := fun x => match x with
    | .finite _ _ e => e
    | _ => 0
  have hfits : ∀ w g, g ≤ least w → w.FitsGrid g := fun w g h => by
    cases w with
    | finite s m e => exact h
    | nan | infinite s => trivial
  exact ⟨min (least x) (min (least y) (least z)), hfits x _ (by omega), hfits y _ (by omega),
    hfits z _ (by omega)⟩

/-- **The place of a number on a grid.** The infinities stand outside, below and above all
mantissas. -/
def place (g : Int) : Binary64 → Int × Int
  | .nan => (0, 0)
  | .infinite s => (if s then -1 else 1, 0)
  | .finite s m e => (0, onGrid s m e g)

/-- The order of two places. -/
abbrev comparePlaces : Int × Int → Int × Int → Ordering :=
  compareLex (compareOn Prod.fst) (compareOn Prod.snd)

/-- **Numbers are in the order of their places.** -/
theorem compare?_eq_place {g : Int} {x y : Binary64} (hx : x.FitsGrid g) (hy : y.FitsGrid g) :
    x.compare? y =
      if x = .nan ∨ y = .nan then none else some (comparePlaces (x.place g) (y.place g)) := by
  cases x with
  | nan => cases y <;> rfl
  | infinite s =>
    cases y with
    | nan => rfl
    | infinite t => cases s <;> cases t <;> rfl
    | finite t n f => cases s <;> rfl
  | finite s m e =>
    cases y with
    | nan => rfl
    | infinite t => cases t <;> rfl
    | finite t n f =>
      simp [compare?, place, compareLex, compareOn, compareFinite_eq_onGrid hx hy]

/-! ### The laws of the order -/

/-- **Numbers can be compared unless one of them is no number.** -/
theorem isSome_compare?_iff {x y : Binary64} :
    (x.compare? y).isSome = true ↔ x ≠ .nan ∧ y ≠ .nan := by
  obtain ⟨g, hx, hy, -⟩ := exists_fitsGrid x y x
  rw [compare?_eq_place hx hy, ← not_or]
  split <;> simp [*]

/-- **The order is oriented.** -/
theorem compare?_swap (x y : Binary64) : y.compare? x = (x.compare? y).map Ordering.swap := by
  obtain ⟨g, hx, hy, -⟩ := exists_fitsGrid x y x
  rw [compare?_eq_place hx hy, compare?_eq_place hy hx, if_congr or_comm rfl rfl]
  split
  · rfl
  · rw [Option.map_some, ← Std.OrientedCmp.eq_swap]

/-- **The order is transitive.** -/
theorem compare?_trans {x y z : Binary64} {o p q : Ordering} (hxy : x.compare? y = some o)
    (hyz : y.compare? z = some p) (hxz : x.compare? z = some q) (ho : o.isLE) (hp : p.isLE) :
    q.isLE := by
  obtain ⟨g, hx, hy, hz⟩ := exists_fitsGrid x y z
  rw [compare?_eq_place hx hy] at hxy
  rw [compare?_eq_place hy hz] at hyz
  rw [compare?_eq_place hx hz] at hxz
  simp only [ite_eq_iff, reduceCtorEq, and_false, false_or, Option.some.injEq] at hxy hyz hxz
  obtain ⟨-, rfl⟩ := hxy
  obtain ⟨-, rfl⟩ := hyz
  obtain ⟨-, rfl⟩ := hxz
  exact Std.TransCmp.isLE_trans ho hp

end Binary64

end FederatedSearch.Number
